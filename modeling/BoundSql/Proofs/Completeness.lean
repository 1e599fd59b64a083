import BoundSql.Proofs.Arrangement
import Mathlib.Tactic.MkIffOfInductiveProp

/-!
# Complete statements

Which statements can be written is said here in terms of what has been set, kind by kind and
without regard to how the fields are laid out.  A statement that is complete in this sense is
written, and any other is refused as incomplete (`Grammar.IsWrittenIff`).
-/

namespace BoundSql

/-! ### What is set -/

/-- Decides whether a clause is a flag, which can be set to no effect. -/
def Clause.isFlag : Clause → Bool
  | .flag _ => true
  | _ => false

theorem Clause.not_isSwitchedOff {α : Type} {clause : Clause} (h : clause.isFlag = false)
    (form : clause.Form α) :
  ¬ clause.IsSwitchedOff form
  := by
  cases clause with
  | flag f => contradiction
  | _ => exact id

/-- A flag is set to true. -/
def Fragment.IsOn {flag : Flag} (fragment : Fragment (.flag flag) .one) : Prop :=
  fragment.content = some true

/-- A flag writes something when it is set to true. -/
theorem Fragment.isSome_template_iff_isOn {flag : Flag} (fragment : Fragment (.flag flag) .one) :
  fragment.template.isSome = true ↔ fragment.IsOn
  := by
  obtain ⟨_ | _ | _⟩ := fragment
  · exact iff_of_false nofun nofun
  · exact iff_of_false nofun nofun
  · exact iff_of_true rfl rfl

namespace Statement

variable {grammar : Grammar} {statement : Statement grammar}

/-- Something has been set for a field. -/
def IsSet (statement : Statement grammar) (field : grammar.Field) : Prop :=
  (statement.fragment field).isSet = true

/-- Of several groups of fields there is exactly one with a field that is set. -/
def SetsOneOf (statement : Statement grammar) (groups : List (List grammar.Field)) : Prop :=
  (groups.countP fun group => group.any fun field => (statement.fragment field).isSet) = 1

/-- A field that is no flag writes something when it is set. -/
theorem isPresent_iff_isSet {field : grammar.Field}
    (h : (grammar.clause field).isFlag = false) :
  statement.isPresent field = true ↔ statement.IsSet field
  := by
  rw [isPresent, Option.isSome_iff_ne_none, Ne, Fragment.template_eq_none_iff, IsSet,
    Fragment.isSet, Bool.not_eq_true', List.isEmpty_eq_false_iff_exists_mem, not_forall]
  apply exists_congr
  intro form
  rw [Classical.not_imp]
  exact and_iff_left (Clause.not_isSwitchedOff h form)

/-- Where the forms have no flags, one is chosen when one is set. -/
theorem exists_chooseForm_iff_setsOneOf (statement : Statement grammar)
    {forms : List (StatementForm grammar.Field)}
    (h : ∀ form ∈ forms, ∀ field ∈ form.fields, (grammar.clause field).isFlag = false) :
  (∃ fields, chooseForm statement.isPresent forms = .ok fields)
    ↔ statement.SetsOneOf (forms.map StatementForm.fields)
  := by
  have hcount : forms.countP (StatementForm.isPresent statement.isPresent)
      = forms.countP ((fun group => group.any fun field => (statement.fragment field).isSet)
        ∘ StatementForm.fields) := by
    apply List.countP_congr
    intro form hform
    simp only [StatementForm.isPresent, Function.comp_apply, List.any_eq_true]
    apply exists_congr
    intro field
    apply and_congr_right
    intro hfield
    rw [isPresent_iff_isSet (h form hform field hfield), IsSet]
  rw [exists_chooseForm_iff, SetsOneOf, List.countP_map, hcount]

end Statement

/-! ### Statements that are written -/

/-- The statements of a grammar that can be written are those with a property: after any calls,
a statement that has the property is written, and one that does not have it is refused as
incomplete. -/
def Grammar.IsWrittenIff (grammar : Grammar) (complete : Statement grammar → Prop) : Prop :=
  ∀ (config : Config) (calls : List (Call grammar)),
    let final := ((Statement.new grammar config).run calls).1
    ((∃ sql, final.sql.result = .ok sql) ↔ complete final)
      ∧ (¬ complete final →
        ∃ omission, final.sql.result = .error (.incomplete grammar.command omission))

/-- What can be written is what has a layout. -/
theorem Grammar.isWrittenIff_of_layout {grammar : Grammar}
    {complete : Statement grammar → Prop}
    (h : ∀ statement : Statement grammar,
      (∃ fields, grammar.layout statement.isPresent = .ok fields) ↔ complete statement) :
  grammar.IsWrittenIff complete
  := by
  intro config calls final
  have hsql : final.sql.result = final.layout.map fun fields =>
      Template.text Token.name (Template.spaced (Template.word grammar.command
        :: fields.filterMap fun field => (final.fragment field).template)) := by
    rw [Statement.sql_eq, Statement.template_eq
      fun field => ((Statement.agrees_isKept config calls).get_eq field).1]
    cases final.layout with
    | error e => rfl
    | ok fields => rfl
  rw [hsql, Statement.layout, ← h]
  cases grammar.layout final.isPresent with
  | error omission =>
    constructor
    · apply iff_of_false
      · rintro ⟨sql, hok⟩
        contradiction
      · rintro ⟨fields, hok⟩
        contradiction
    · exact fun _ => ⟨omission, rfl⟩
  | ok fields =>
    constructor
    · exact iff_of_true ⟨_, rfl⟩ ⟨fields, rfl⟩
    · exact fun hnone => absurd ⟨fields, rfl⟩ hnone

/-! ### Tables -/

open Statement

namespace AlterTable

/-- All tables of a tablespace are to be moved to another one. -/
@[mk_iff]
structure MovesAll (statement : Statement alterTable) : Prop where
  allInTablespace : Fragment.IsOn (statement.fragment .allInTablespace)
  ifExists : ¬ Fragment.IsOn (statement.fragment .ifExists)
  only : ¬ Fragment.IsOn (statement.fragment .only)
  wildcard : ¬ Fragment.IsOn (statement.fragment .wildcard)
  actions : ¬ statement.IsSet .actions
  renameColumn : ¬ statement.IsSet .renameColumn
  renameTo : ¬ statement.IsSet .renameTo
  schema : ¬ statement.IsSet .schema
  tablespace : statement.IsSet .tablespace

/-- One table is to be altered, in exactly one of the possible ways. -/
@[mk_iff]
structure AltersOne (statement : Statement alterTable) : Prop where
  allInTablespace : ¬ Fragment.IsOn (statement.fragment .allInTablespace)
  ownedBy : ¬ statement.IsSet .ownedBy
  noWait : ¬ Fragment.IsOn (statement.fragment .noWait)
  only_wildcard : ¬ (Fragment.IsOn (statement.fragment .only)
    ∧ Fragment.IsOn (statement.fragment .wildcard))
  setsOneOf : statement.SetsOneOf
    [[.actions], [.renameColumn], [.renameTo], [.schema], [.tablespace]]

/-- The name is set, and what is to be done. -/
@[mk_iff]
structure IsComplete (statement : Statement alterTable) : Prop where
  name : statement.IsSet .name
  form : MovesAll statement ∨ AltersOne statement

theorem exists_layoutAll_iff {present : Field → Bool} :
  (∃ fields, layoutAll present = .ok fields)
    ↔ ¬ present .ifExists = true ∧ ¬ present .only = true ∧ ¬ present .wildcard = true
      ∧ ¬ present .actions = true ∧ ¬ present .renameColumn = true
      ∧ ¬ present .renameTo = true ∧ ¬ present .schema = true ∧ present .tablespace = true
  := by
  simp only [layoutAll, Except.exists_seq_eq_ok, refuse_eq_ok, require_eq_ok,
    Except.exists_pure_eq_ok, and_true, Bool.not_eq_true]

theorem exists_layoutOne_iff {present : Field → Bool} :
  (∃ fields, layoutOne present = .ok fields)
    ↔ ¬ present .ownedBy = true ∧ ¬ present .noWait = true
      ∧ ¬ (present .only = true ∧ present .wildcard = true)
      ∧ ∃ fields, chooseForm present forms = .ok fields
  := by
  simp only [layoutOne, Except.exists_seq_eq_ok, refuse_eq_ok, ← Bool.not_eq_true,
    Bool.and_eq_true, Except.exists_bind_pure_eq_ok]

variable {statement : Statement alterTable}

theorem exists_layoutAll_iff_movesAll (hall : Fragment.IsOn (statement.fragment .allInTablespace)) :
  (∃ fields, layoutAll statement.isPresent = .ok fields) ↔ MovesAll statement
  := by
  apply exists_layoutAll_iff.trans
  -- The conditions stand in the order in which the layout looks at them.
  rw [movesAll_iff, and_iff_right hall]
  apply and_congr (not_congr (Fragment.isSome_template_iff_isOn _))
  apply and_congr (not_congr (Fragment.isSome_template_iff_isOn _))
  apply and_congr (not_congr (Fragment.isSome_template_iff_isOn _))
  apply and_congr (not_congr (isPresent_iff_isSet rfl))
  apply and_congr (not_congr (isPresent_iff_isSet rfl))
  apply and_congr (not_congr (isPresent_iff_isSet rfl))
  apply and_congr (not_congr (isPresent_iff_isSet rfl))
  exact isPresent_iff_isSet rfl

theorem exists_layoutOne_iff_altersOne
    (hall : ¬ Fragment.IsOn (statement.fragment .allInTablespace)) :
  (∃ fields, layoutOne statement.isPresent = .ok fields) ↔ AltersOne statement
  := by
  apply exists_layoutOne_iff.trans
  rw [altersOne_iff, and_iff_right hall]
  apply and_congr (not_congr (isPresent_iff_isSet rfl))
  apply and_congr (not_congr (Fragment.isSome_template_iff_isOn _))
  apply and_congr
  · exact not_congr (and_congr (Fragment.isSome_template_iff_isOn _)
      (Fragment.isSome_template_iff_isOn _))
  · have hforms : ∀ form ∈ forms, ∀ field ∈ form.fields,
        (alterTable.clause field).isFlag = false := by decide
    exact statement.exists_chooseForm_iff_setsOneOf hforms

/-- The fields form a statement when it is complete. -/
theorem exists_layout_iff_isComplete :
  (∃ fields, alterTable.layout statement.isPresent = .ok fields) ↔ IsComplete statement
  := by
  have hlayout : (∃ fields, alterTable.layout statement.isPresent = .ok fields)
      ↔ statement.isPresent .name = true
        ∧ ∃ fields, (if statement.isPresent .allInTablespace then
          layoutAll statement.isPresent else layoutOne statement.isPresent) = .ok fields :=
    Except.exists_seq_eq_ok.trans (and_congr_left' require_eq_ok)
  rw [hlayout, isComplete_iff]
  apply and_congr (isPresent_iff_isSet rfl)
  by_cases hall : Fragment.IsOn (statement.fragment .allInTablespace)
  · have hpresent : statement.isPresent .allInTablespace = true :=
      (Fragment.isSome_template_iff_isOn _).mpr hall
    rw [if_pos hpresent]
    apply (exists_layoutAll_iff_movesAll hall).trans
    exact (or_iff_left fun halters => halters.allInTablespace hall).symm
  · have habsent : ¬ statement.isPresent .allInTablespace = true :=
      mt (Fragment.isSome_template_iff_isOn _).mp hall
    rw [if_neg habsent]
    apply (exists_layoutOne_iff_altersOne hall).trans
    exact (or_iff_right fun hmoves => hall hmoves.allInTablespace).symm

end AlterTable

/-- A statement `ALTER TABLE` is written exactly if it is complete, and refused as incomplete
otherwise. -/
theorem alterTable_isWrittenIff :
  alterTable.IsWrittenIff AlterTable.IsComplete
  := Grammar.isWrittenIff_of_layout fun _ => AlterTable.exists_layout_iff_isComplete

/-! ### The other kinds of statements -/

namespace AlterIndex

/-- The name is set, and exactly one thing that is to be done, which is no dependency on an
extension if `IF EXISTS` is asked for. -/
@[mk_iff]
structure IsComplete (statement : Statement alterIndex) : Prop where
  name : statement.IsSet .name
  ifExists : ¬ (Fragment.IsOn (statement.fragment .ifExists) ∧ statement.IsSet .dependsOnExtension)
  setsOneOf : statement.SetsOneOf
    [[.renameTo], [.tablespace], [.dependsOnExtension], [.storageParameters],
      [.resetParameters]]

theorem exists_layout_iff {present : Field → Bool} :
  (∃ fields, layout present = .ok fields)
    ↔ present .name = true
      ∧ ¬ (present .ifExists = true ∧ present .dependsOnExtension = true)
      ∧ ∃ fields, chooseForm present forms = .ok fields
  := by
  simp only [layout, Except.exists_seq_eq_ok, refuse_eq_ok, require_eq_ok,
    ← Bool.not_eq_true, Bool.and_eq_true, Except.exists_bind_pure_eq_ok]

theorem exists_layout_iff_isComplete {statement : Statement alterIndex} :
  (∃ fields, alterIndex.layout statement.isPresent = .ok fields) ↔ IsComplete statement
  := by
  have hforms : ∀ form ∈ forms, ∀ field ∈ form.fields,
      (alterIndex.clause field).isFlag = false := by decide
  apply exists_layout_iff.trans
  rw [isComplete_iff]
  apply and_congr (isPresent_iff_isSet rfl)
  apply and_congr
  · exact not_congr (and_congr (Fragment.isSome_template_iff_isOn _) (isPresent_iff_isSet rfl))
  · exact statement.exists_chooseForm_iff_setsOneOf hforms

end AlterIndex

namespace AlterSequence

/-- The name is set, and either one thing that is to be done or options. -/
@[mk_iff]
structure IsComplete (statement : Statement alterSequence) : Prop where
  name : statement.IsSet .name
  setsOneOf : statement.SetsOneOf
    [[.ownerTo], [.renameTo], [.schema],
      [.dataType, .incrementBy, .minValue, .maxValue, .startWith, .restart, .cache, .cycle]]

theorem exists_layout_iff {present : Field → Bool} :
  (∃ fields, layout present = .ok fields)
    ↔ present .name = true ∧ ∃ fields, chooseForm present forms = .ok fields
  := by
  simp only [layout, Except.exists_seq_eq_ok, require_eq_ok, Except.exists_bind_pure_eq_ok]

theorem exists_layout_iff_isComplete {statement : Statement alterSequence} :
  (∃ fields, alterSequence.layout statement.isPresent = .ok fields) ↔ IsComplete statement
  := by
  have hforms : ∀ form ∈ forms, ∀ field ∈ form.fields,
      (alterSequence.clause field).isFlag = false := by decide
  apply exists_layout_iff.trans
  rw [isComplete_iff]
  apply and_congr (isPresent_iff_isSet rfl)
  exact statement.exists_chooseForm_iff_setsOneOf hforms

end AlterSequence

namespace AlterPolicy

/-- The name and the table are set, and either a new name or what else is to be changed. -/
@[mk_iff]
structure IsComplete (statement : Statement alterPolicy) : Prop where
  name : statement.IsSet .name
  onTable : statement.IsSet .onTable
  setsOneOf : statement.SetsOneOf [[.renameTo], [.toRoles, .using, .withCheck]]

theorem exists_layout_iff {present : Field → Bool} :
  (∃ fields, layout present = .ok fields)
    ↔ present .name = true ∧ present .onTable = true
      ∧ ∃ fields, chooseForm present forms = .ok fields
  := by
  simp only [layout, Except.exists_seq_eq_ok, require_eq_ok, Except.exists_bind_pure_eq_ok]

theorem exists_layout_iff_isComplete {statement : Statement alterPolicy} :
  (∃ fields, alterPolicy.layout statement.isPresent = .ok fields) ↔ IsComplete statement
  := by
  have hforms : ∀ form ∈ forms, ∀ field ∈ form.fields,
      (alterPolicy.clause field).isFlag = false := by decide
  apply exists_layout_iff.trans
  rw [isComplete_iff]
  apply and_congr (isPresent_iff_isSet rfl)
  apply and_congr (isPresent_iff_isSet rfl)
  exact statement.exists_chooseForm_iff_setsOneOf hforms

end AlterPolicy

namespace AlterPublication

/-- The name is set, and exactly one thing that is to be done. -/
@[mk_iff]
structure IsComplete (statement : Statement alterPublication) : Prop where
  name : statement.IsSet .name
  setsOneOf : statement.SetsOneOf
    [[.addTables], [.setTables], [.dropTables], [.renameTo], [.ownerTo]]

theorem exists_layout_iff {present : Field → Bool} :
  (∃ fields, layout present = .ok fields)
    ↔ present .name = true ∧ ∃ fields, chooseForm present forms = .ok fields
  := by
  simp only [layout, Except.exists_seq_eq_ok, require_eq_ok, Except.exists_bind_pure_eq_ok]

theorem exists_layout_iff_isComplete {statement : Statement alterPublication} :
  (∃ fields, alterPublication.layout statement.isPresent = .ok fields) ↔ IsComplete statement
  := by
  have hforms : ∀ form ∈ forms, ∀ field ∈ form.fields,
      (alterPublication.clause field).isFlag = false := by decide
  apply exists_layout_iff.trans
  rw [isComplete_iff]
  apply and_congr (isPresent_iff_isSet rfl)
  exact statement.exists_chooseForm_iff_setsOneOf hforms

end AlterPublication

/-- The statements of the other kinds that are written are the complete ones, and any other is
refused as incomplete.  `BEGIN` is always written. -/
theorem other_kinds_isWrittenIff :
  alterIndex.IsWrittenIff AlterIndex.IsComplete
    ∧ alterSequence.IsWrittenIff AlterSequence.IsComplete
    ∧ alterPolicy.IsWrittenIff AlterPolicy.IsComplete
    ∧ alterPublication.IsWrittenIff AlterPublication.IsComplete
    ∧ beginTransaction.IsWrittenIff fun _ => True
  := by
  refine ⟨?_, ?_, ?_, ?_, ?_⟩
  · exact Grammar.isWrittenIff_of_layout fun _ => AlterIndex.exists_layout_iff_isComplete
  · exact Grammar.isWrittenIff_of_layout fun _ => AlterSequence.exists_layout_iff_isComplete
  · exact Grammar.isWrittenIff_of_layout fun _ => AlterPolicy.exists_layout_iff_isComplete
  · exact Grammar.isWrittenIff_of_layout fun _ => AlterPublication.exists_layout_iff_isComplete
  · exact Grammar.isWrittenIff_of_layout fun _ => iff_true_intro ⟨_, rfl⟩

end BoundSql
