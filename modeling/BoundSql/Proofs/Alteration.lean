import BoundSql.Proofs.Argument

/-!
# What altering a column takes

Which value and which collation come with a change of a column depends on the change:
`ColumnChange.TakesValue` and `ColumnChange.TakesCollation` are the table.  The clause accepts
exactly the arguments that fit this table, and its action gives them back.  All others are
refused under the name of the first argument that offends, in the order kind, column, collation,
value (`alterations_need_fitting_arguments`).
-/

namespace BoundSql

open Stateful

/-! ### What a change takes -/

namespace ColumnChange

/-- Only a change of the type takes a collation, which is clean. -/
def TakesCollation (change : ColumnChange) (collation : Option String) : Prop :=
  ∀ name ∈ collation, change = .setDataType ∧ IsClean name

/-- The value that a change takes: a type or a default is clean text, a statistics target is
between -1 and 10000, and a storage mode is given by its number. -/
def TakesValue : ColumnChange → Option ColumnValue → Prop
  | .dropNotNull, value | .setNotNull, value | .dropDefault, value => value = none
  | .setDataType, value | .setDefault, value => ∃ s, value = some (.text s) ∧ IsClean s
  | .setStatistics, value => ∃ n, value = some (.int n) ∧ -1 ≤ n.toInt ∧ n.toInt ≤ 10000
  | .setStorage, value =>
    ∃ n, value = some (.int n) ∧ ∃ mode : StorageMode, n.toInt = Coded.code mode

end ColumnChange

namespace AlterColumnArgs

variable {args : AlterColumnArgs} {argument : String}

/-- The arguments fit: they name a change and a clean column, and have the collation and the
value that the change takes. -/
def IsFitting (args : AlterColumnArgs) : Prop :=
  ∃ change, args.change.Means change ∧ IsClean args.column
    ∧ change.TakesCollation args.collation ∧ change.TakesValue args.value

/-- The first argument that does not fit. -/
inductive Offends (args : AlterColumnArgs) : String → Prop where
  | kind (h : ∀ change, ¬ args.change.Means change) : Offends args "kind"
  | column {change : ColumnChange} (hkind : args.change.Means change)
    (h : ¬ IsClean args.column) : Offends args "column"
  | collation {change : ColumnChange} (hkind : args.change.Means change)
    (hcolumn : IsClean args.column) (h : ¬ change.TakesCollation args.collation) :
    Offends args "collation"
  | value {change : ColumnChange} (hkind : args.change.Means change)
    (hcolumn : IsClean args.column) (hcollation : change.TakesCollation args.collation)
    (h : ¬ change.TakesValue args.value) : Offends args "value"

/-- Arguments fit unless one offends. -/
theorem isFitting_iff :
  args.IsFitting ↔ ∀ argument, ¬ args.Offends argument
  := by
  constructor
  · rintro ⟨change, hmeans, hcolumn, hcollation, hvalue⟩ argument hoffends
    cases hoffends with
    | kind h => exact h change hmeans
    | column _ h => exact h hcolumn
    | collation hkind _ h =>
      obtain rfl := hkind.unique hmeans
      exact h hcollation
    | value hkind _ _ h =>
      obtain rfl := hkind.unique hmeans
      exact h hvalue
  · intro hnone
    by_contra hunfit
    by_cases hkind : ∃ change, args.change.Means change
    · obtain ⟨change, hmeans⟩ := hkind
      by_cases hcolumn : IsClean args.column
      · by_cases hcollation : change.TakesCollation args.collation
        · apply hnone "value"
          apply Offends.value hmeans hcolumn hcollation
          intro hvalue
          apply hunfit
          use change
        · exact hnone "collation" (.collation hmeans hcolumn hcollation)
      · exact hnone "column" (.column hmeans hcolumn)
    · exact hnone "kind" (.kind (not_exists.mp hkind))

end AlterColumnArgs

/-! ### What the check refuses -/

namespace ColumnAction

variable {change : ColumnChange} {value : Option ColumnValue} {collation : Option String}
  {argument : String}

theorem refuses_checkCollation :
  Refuses (checkCollation change collation) argument
    ↔ argument = "collation" ∧ ¬ (collation.isSome = true → change = .setDataType)
  := by
  rw [checkCollation]
  split_ifs with h
  · rw [Bool.and_eq_true, bne_iff_ne] at h
    simp [refuses_error, h]
  · rw [Bool.and_eq_true, bne_iff_ne] at h
    simp [not_refuses_ok, h]

theorem refuses_checkNoValue :
  Refuses (checkNoValue change value) argument ↔ argument = "value" ∧ ¬ value = none
  := by
  cases value with
  | none => simp [checkNoValue, not_refuses_ok]
  | some value => simp [checkNoValue, refuses_error]

theorem refuses_checkTextValue :
  Refuses (checkTextValue change value) argument
    ↔ argument = "value" ∧ ¬ ∃ s, value = some (.text s) ∧ IsClean s
  := by
  match value with
  | none => simp [checkTextValue, refuses_error]
  | some (.int n) => simp [checkTextValue, refuses_error]
  | some (.text s) => simp [checkTextValue, refuses_checkedText]

/-- What is checked of the integer that has to come with a change. -/
theorem refuses_checkIntValue {P : Int64 → Prop}
    {next : Int64 → Except Rejection (ColumnAction Value)}
    (hnext : ∀ n, Refuses (next n) argument ↔ argument = "value" ∧ ¬ P n) :
  Refuses (checkIntValue change value >>= next) argument
    ↔ argument = "value" ∧ ¬ ∃ n, value = some (.int n) ∧ P n
  := by
  match value with
  | none =>
    show Refuses (.error ⟨"value", _⟩) argument ↔ _
    simp [refuses_error]
  | some (.text s) =>
    show Refuses (.error ⟨"value", _⟩) argument ↔ _
    simp [refuses_error]
  | some (.int n) =>
    show Refuses (next n) argument ↔ _
    simp [hnext]

theorem refuses_checkStatistics {n : Int64} :
  Refuses (checkStatistics n) argument
    ↔ argument = "value" ∧ ¬ (-1 ≤ n.toInt ∧ n.toInt ≤ 10000)
  := by
  rw [checkStatistics]
  split_ifs with h
  · simp [not_refuses_ok, h]
  · simp only [refuses_error, h, not_false_eq_true, and_true]

/-- A change that takes no collation refuses one first, and then its value. -/
theorem refuses_of_ne_setDataType (hchange : change ≠ .setDataType)
    {next : Unit → Except Rejection (ColumnAction Value)}
    (hnext : Refuses (next ()) argument ↔ argument = "value" ∧ ¬ change.TakesValue value) :
  Refuses (checkCollation change collation >>= next) argument
    ↔ (argument = "collation" ∧ ¬ change.TakesCollation collation)
      ∨ (change.TakesCollation collation ∧ argument = "value" ∧ ¬ change.TakesValue value)
  := by
  refine refuses_bind_iff (fun name => ?_) fun _ => hnext
  rw [refuses_checkCollation]
  cases collation with
  | none => simp [ColumnChange.TakesCollation]
  | some name => simp [ColumnChange.TakesCollation, hchange]

/-- The check of a change refuses a collation that the change does not take, and then a value
that it does not take. -/
theorem refuses_check :
  Refuses (check change value collation) argument
    ↔ (argument = "collation" ∧ ¬ change.TakesCollation collation)
      ∨ (change.TakesCollation collation ∧ argument = "value" ∧ ¬ change.TakesValue value)
  := by
  cases change with
  | dropNotNull | dropDefault | setNotNull =>
    apply refuses_of_ne_setDataType (by decide)
    exact refuses_bind_pure.trans refuses_checkNoValue
  | setDataType =>
    have hcollation : ColumnChange.setDataType.TakesCollation collation
        ↔ ∀ name ∈ collation, IsClean name := by
      simp [ColumnChange.TakesCollation]
    have hcheck : check .setDataType value collation = (do
        let name ← checkedText? "collation" collation
        let dataType ← checkTextValue .setDataType value
        pure (.setDataType dataType name)) := by
      have hpasses : checkCollation .setDataType collation = .ok () := by simp [checkCollation]
      rw [check, hpasses]
      rfl
    rw [hcheck, hcollation]
    refine refuses_bind_iff (fun name => refuses_checkedText?) fun name => ?_
    exact refuses_bind_pure.trans refuses_checkTextValue
  | setDefault =>
    apply refuses_of_ne_setDataType (by decide)
    exact refuses_bind_pure.trans refuses_checkTextValue
  | setStatistics =>
    apply refuses_of_ne_setDataType (by decide)
    apply refuses_checkIntValue
    exact fun n => refuses_bind_pure.trans refuses_checkStatistics
  | setStorage =>
    apply refuses_of_ne_setDataType (by decide)
    apply refuses_checkIntValue
    intro n
    rw [refuses_bind_pure, refuses_checkedCode]
    simp only [CodeArg.means_code, not_exists]

end ColumnAction

/-- The check refuses the first argument that offends. -/
theorem AlterColumn.refuses_check {args : AlterColumnArgs} {argument : String} :
  Refuses (check args) argument ↔ args.Offends argument
  := by
  have hrest : ∀ change, Refuses (do
      let column ← checkedText "column" args.column
      let action ← ColumnAction.check change args.value args.collation
      pure (⟨column, action⟩ : AlterColumn Value)) argument
        ↔ (argument = "column" ∧ ¬ IsClean args.column)
          ∨ (IsClean args.column
            ∧ ((argument = "collation" ∧ ¬ change.TakesCollation args.collation)
              ∨ (change.TakesCollation args.collation
                ∧ argument = "value" ∧ ¬ change.TakesValue args.value))) := by
    intro change
    apply refuses_bind_iff (fun name => refuses_checkedText)
    exact fun column => refuses_bind_pure.trans ColumnAction.refuses_check
  rw [check, refuses_bind, refuses_checkedCode]
  simp only [checkedCode_eq_ok, hrest]
  constructor
  · rintro (⟨rfl, hkind⟩ | ⟨change, hkind, hchange⟩)
    · exact .kind hkind
    · obtain ⟨rfl, hcolumn⟩ | ⟨hcolumn, haction⟩ := hchange
      · exact .column hkind hcolumn
      · obtain ⟨rfl, hcollation⟩ | ⟨hcollation, rfl, hvalue⟩ := haction
        · exact .collation hkind hcolumn hcollation
        · exact .value hkind hcolumn hcollation hvalue
  · rintro (hkind | ⟨hkind, hcolumn⟩ | ⟨hkind, hcolumn, hcollation⟩
      | ⟨hkind, hcolumn, hcollation, hvalue⟩)
    · exact .inl ⟨rfl, hkind⟩
    · exact .inr ⟨_, hkind, .inl ⟨rfl, hcolumn⟩⟩
    · exact .inr ⟨_, hkind, .inr ⟨hcolumn, .inl ⟨rfl, hcollation⟩⟩⟩
    · exact .inr ⟨_, hkind, .inr ⟨hcolumn, .inr ⟨hcollation, rfl, hvalue⟩⟩⟩

/-! ### Binding -/

/-- Alterations need fitting arguments.  With room for the literals, the arguments for altering a
column are accepted exactly if they fit, and the action carries them: with the values of its
tokens, it gives back the column, the change that is meant, the value and the collation.  A
refusal names the first argument that offends, in the order kind, column, collation, value, and
leaves no token. -/
theorem alterations_need_fitting_arguments (args : AlterColumnArgs) {registry : Registry}
    (hroom : registry.HasRoom args.supplied.length) :
  ((∃ alter changed, Succeeds (Clause.alterColumn.bind args) registry alter changed)
      ↔ args.IsFitting)
    ∧ (∀ (alter : AlterColumn Token) changed,
      Succeeds (Clause.alterColumn.bind args) registry alter changed →
      ∃ change, args.change.Means change
        ∧ (alter.traverse changed.lookup >>= AlterColumn.restore)
          = some { args with change := .variant change })
    ∧ ∀ e changed, Fails (Clause.alterColumn.bind args) registry e changed →
      changed = registry ∧ ∃ argument reason, args.Offends argument
        ∧ e = .invalidArgument "alter_column" ⟨argument, reason⟩
  := by
  have hcheck : Clause.alterColumn.check args
      = Clause.refusing "alter_column" (AlterColumn.check args) := rfl
  have hbinds : (∃ alter changed,
      Succeeds (Clause.alterColumn.bind args) registry alter changed) ↔ args.IsFitting := by
    rw [AlterColumnArgs.isFitting_iff]
    apply (Clause.exists_succeeds_bind_iff hcheck hroom).trans
    exact forall_congr' fun argument => not_congr AlterColumn.refuses_check
  use hbinds
  constructor
  · intro alter changed h
    obtain ⟨change, hmeans, -⟩ := hbinds.mp ⟨alter, changed, h⟩
    obtain ⟨checked, hbound⟩ := Clause.of_succeeds_bind _ h
    have hgives := (Clause.isKept_isMade _ _ _ _ _ _ hbound).givesBack
    use change, hmeans
    rw [← hmeans.normalise_eq]
    exact hgives
  · intro e changed h
    obtain ⟨hchanged, argument, reason, hrefuses, he⟩ :=
      Clause.refuses_of_fails_bind hcheck hroom h
    exact ⟨hchanged, argument, reason, AlterColumn.refuses_check.mp hrefuses, he⟩

/-- The arguments that store a column by the given number, with the change by its number too. -/
def storeArgs (n : Int64) : AlterColumnArgs := ⟨"c", .code 7, some (.int n), none⟩

theorem alterations_need_fitting_arguments_of_storeArgs :
  (∃ changed, Succeeds (Clause.alterColumn.bind (storeArgs 4)) (Registry.new {} 0)
      (⟨(Registry.new {} 0).tokenOf 1, .setStorage .plain⟩ : AlterColumn Token) changed)
    ∧ (storeArgs 4).IsFitting
    ∧ ∃ reason, Fails (Clause.alterColumn.bind (storeArgs 4294967300)) (Registry.new {} 0)
        (.invalidArgument "alter_column" ⟨"value", reason⟩) (Registry.new {} 0)
      ∧ (storeArgs 4294967300).Offends "value"
  := by
  have hroom : ∀ n, (Registry.new {} 0).HasRoom (storeArgs n).supplied.length := by
    intro n
    show (Registry.new {} 0).HasRoom 1
    apply Registry.hasRoom_new (by decide) (by decide)
  have hbinds : Succeeds (Clause.alterColumn.bind (storeArgs 4)) (Registry.new {} 0)
      (⟨(Registry.new {} 0).tokenOf 1, .setStorage .plain⟩ : AlterColumn Token)
      ((Registry.new {} 0).append [some (.text "c")]) := by
    constructor
    · rfl
    · rfl
  have hfails : Fails (Clause.alterColumn.bind (storeArgs 4294967300)) (Registry.new {} 0)
      (.invalidArgument "alter_column"
        ⟨"value", .unknownCode "storage mode" 4294967300⟩) (Registry.new {} 0) := by
    constructor
    · rfl
    · rfl
  use ⟨_, hbinds⟩
  constructor
  · exact (alterations_need_fitting_arguments _ (hroom 4)).1.mp ⟨_, _, hbinds⟩
  · obtain ⟨-, argument, reason, hoffends, he⟩ :=
      (alterations_need_fitting_arguments _ (hroom _)).2.2 _ _ hfails
    obtain ⟨rfl, rfl⟩ := Rejection.mk.inj (Error.invalidArgument.inj he).2
    exact ⟨_, hfails, hoffends⟩

end BoundSql
