import BoundSql.Proofs.Ambiguity
import BoundSql.Proofs.Decoding

/-!
# Unambiguous statements

The text of a statement without queries determines what the statement holds: which fields write
something, and the keywords, the numbers, the optional parts and the names of the tokens in each
of their forms, in order (`sql_determines_wording`).  Canonical forms can be decoded, and so can
lists of them; the fields of a statement can be told apart because no field begins with what may
go on behind a field before it.
-/

namespace BoundSql

open Template

variable {α β : Type}

/-! ### Lists of forms -/

namespace Clause

theorem clash_comma (clause : Clause) :
  ∀ p ∈ clause.continuations, Clash (word ", ") p
  := by
  cases clause with
  | quantity | limit | table => simp only [continuations]; decide
  | flag | literal | role | setting | condition => nofun
  | _ => decide

/-- A form of a clause can be told from what goes on behind one. -/
theorem clash_fence (clause : Clause) :
  ∀ fence ∈ behind " " clause.leads, ∀ p ∈ clause.continuations, Clash fence p
  := by
  cases clause with
  | quantity q => cases q <;> decide
  | limit l => cases l <;> decide
  | table l => cases l <;> decide
  | flag | literal | role | setting | condition => nofun
  | _ => decide

/-- What is written for several forms, if there are any. -/
def writeAll (clause : Clause) : Arity → List (clause.Form α) → Template α
  | .one => behindEach " " clause.write
  | .many => behindBlank fun forms => clause.around (listed (forms.map clause.write))

/-- What may go on behind a list of forms. -/
def continuationsAround : Clause → List (Template Unit)
  | .setting _ | .resetting => []
  | clause => word ", " :: clause.continuations

/-- The patterns of which a list of forms begins with one. -/
def leadsAround : Clause → List (Template Unit)
  | .role .ownedBy => [word "OWNED BY"]
  | .role .toRole => [word "TO"]
  | .setting l => [word l.keyword ++ (word " " ++ word "(")]
  | .resetting => [word "RESET" ++ (word " " ++ word "(")]
  | .table l => [word l.keyword]
  | clause => clause.leads

/-- What may go on behind several forms. -/
def continuationsAll (clause : Clause) : Arity → List (Template Unit)
  | .one => clause.continuations
  | .many => clause.continuationsAround

/-- The patterns of which several forms begin with one. -/
def fences (clause : Clause) : Arity → List (Template Unit)
  | .one => behind " " clause.leads
  | .many => behind " " clause.leadsAround

theorem decodes_around (clause : Clause) :
  Decodes (α := α) (fun forms => clause.around (listed (forms.map clause.write)))
    (fun forms => forms ≠ [] ∧ ∀ form ∈ forms, clause.IsCanonical form)
    clause.continuationsAround
  := by
  have hlisted := (clause.decodes_write (α := α)).listed clause.clash_comma
  cases clause with
  | role r =>
    cases r with
    | ownerTo => exact hlisted
    | ownedBy => exact hlisted.spaced_word "OWNED BY"
    | toRole => exact hlisted.spaced_word "TO"
  | setting l =>
    exact (Setting.decodes_enclosed.spaced_word l.keyword).mono (fun _ h => h.2)
      (List.Subset.refl _)
  | resetting =>
    exact (StorageParameter.decodes_enclosed.spaced_word "RESET").mono (fun _ h => h.2)
      (List.Subset.refl _)
  | table l => exact hlisted.spaced_word l.keyword
  | _ => exact hlisted

theorem leads_around (clause : Clause) :
  Leads (α := α) (fun forms => clause.around (listed (forms.map clause.write)))
    (fun forms => forms ≠ [] ∧ ∀ form ∈ forms, clause.IsCanonical form)
    clause.leadsAround
  := by
  have hlisted : Leads (α := α) (fun forms => listed (forms.map clause.write))
      (fun forms => forms ≠ [] ∧ ∀ form ∈ forms, clause.IsCanonical form) clause.leads := by
    rintro forms t ⟨hne, hcanonical⟩
    cases forms with
    | nil => contradiction
    | cons form forms =>
      show ∃ lead ∈ clause.leads, Begins lead (listed ((form :: forms).map clause.write) ++ t)
      rw [listed, joined_map_cons, List.append_assoc]
      apply clause.leads_write form _ (hcanonical form List.mem_cons_self)
  have hkeyword : ∀ keyword : String,
      (∀ t : Template α, clause.around t = spaced [word keyword, t]) →
      Leads (α := α) (fun forms => clause.around (listed (forms.map clause.write)))
        (fun forms => forms ≠ [] ∧ ∀ form ∈ forms, clause.IsCanonical form) [word keyword] := by
    intro keyword haround forms t _
    refine ⟨word keyword, List.mem_singleton_self _, ?_⟩
    show Begins (word keyword) (clause.around (listed (forms.map clause.write)) ++ t)
    rw [haround]
    apply begins_spaced_word
  cases clause with
  | role r =>
    cases r with
    | ownerTo => exact hlisted
    | ownedBy => exact hkeyword "OWNED BY" fun _ => rfl
    | toRole => exact hkeyword "TO" fun _ => rfl
  | setting l => exact fun forms t _ => ⟨_, List.mem_singleton_self _, begins_enclosed _ _ t⟩
  | resetting => exact fun forms t _ => ⟨_, List.mem_singleton_self _, begins_enclosed _ _ t⟩
  | table l => exact hkeyword l.keyword fun _ => rfl
  | _ => exact hlisted

/-- Several canonical forms can be told from what they write. -/
theorem decodes_writeAll (clause : Clause) (arity : Arity) :
  Decodes (α := α) (clause.writeAll arity) (∀ form ∈ ·, clause.IsCanonical form)
    (clause.fences arity ++ clause.continuationsAll arity)
  := by
  cases arity with
  | one => exact clause.decodes_write.behindEach " " clause.leads_write clause.clash_fence
  | many => exact clause.decodes_around.behindBlank clause.leads_around

/-- Several canonical forms write nothing, or begin with one of the fences. -/
theorem fences_writeAll (clause : Clause) (arity : Arity) (forms : List (clause.Form α))
    (t : Template α) (h : ∀ form ∈ forms, clause.IsCanonical form) :
  clause.writeAll arity forms = []
    ∨ ∃ fence ∈ clause.fences arity, Begins fence (clause.writeAll arity forms ++ t)
  := by
  cases forms with
  | nil =>
    left
    cases arity <;> rfl
  | cons form forms =>
    right
    cases arity with
    | one => exact clause.leads_write.behindEach (h form List.mem_cons_self) t
    | many => exact clause.leads_around.behindBlank h t

theorem filterMap_template (clause : Clause) (forms : List (clause.Form α)) :
  forms.filterMap clause.template
    = (forms.filter fun form => (clause.template form).isSome).map clause.write
  := by
  induction forms with
  | nil => rfl
  | cons form forms ih =>
    cases h : clause.template form with
    | none => rw [List.filterMap_cons_none h, ih, List.filter_cons_of_neg (by simp [h])]
    | some t =>
      rw [List.filterMap_cons_some h, ih, List.filter_cons_of_pos (by simp [h]), List.map_cons,
        write, h, Option.getD_some]

/-! ### Names of tokens -/

/-- Exchanging the literals of a form exchanges the slots of what it writes. -/
theorem write_map (clause : Clause) (f : α → β) (form : clause.Form α) :
  clause.write (clause.traversal.map f form) = (clause.write form).mapSlots f
  := by
  rw [write, write, template_map]
  cases clause.template form <;> rfl

theorem writeAll_map (clause : Clause) (arity : Arity) (f : α → β) (forms : List (clause.Form α)) :
  clause.writeAll arity (forms.map (clause.traversal.map f))
    = (clause.writeAll arity forms).mapSlots f
  := by
  cases arity with
  | one =>
    show behindEach " " clause.write (forms.map (clause.traversal.map f))
      = (behindEach " " clause.write forms).mapSlots f
    rw [mapSlots_behindEach, behindEach, List.flatMap_map]
    simp only [write_map]
    rfl
  | many =>
    cases forms with
    | nil => rfl
    | cons form forms =>
      have hwrite : clause.write ∘ clause.traversal.map f = mapSlots f ∘ clause.write :=
        funext fun form => clause.write_map f form
      simp only [writeAll, behindBlank, List.map_cons, mapSlots_append, mapSlots_word, ← around_map,
        mapSlots_listed, List.map_map, hwrite, write_map]

/-- Being canonical does not depend on the literals. -/
theorem isCanonical_map (clause : Clause) (f : α → β) (form : clause.Form α) :
  clause.IsCanonical (clause.traversal.map f form) ↔ clause.IsCanonical form
  := by
  cases clause with
  | role r =>
    obtain ⟨kind, _ | name⟩ := form <;> rfl
  | condition c =>
    cases form with
    | literal a => rfl
    | query absorbed => rfl
  | _ => rfl

end Clause

/-! ### Canonical forms -/

theorem RoleSpec.isCanonical_of_check {allowed : List RoleKind} {args : RoleArgs}
    {role : RoleSpec Value} (h : RoleSpec.check allowed args = .ok role) :
  role.IsCanonical
  := by
  obtain ⟨kind, -, hrest⟩ := Except.bind_eq_ok.mp h
  split_ifs at hrest
  obtain ⟨name, hname, hpure⟩ := Except.bind_eq_ok.mp hrest
  obtain rfl := Except.ok.inj hpure
  show kind = .name ↔ name.isSome = true
  cases hargs : args.name with
  | none =>
    rw [hargs, checkName] at hname
    split_ifs at hname with hkind
    obtain rfl := Except.ok.inj hname
    simpa using hkind
  | some s =>
    rw [hargs, checkName] at hname
    split_ifs at hname with hkind
    obtain ⟨value, -, rfl⟩ := Except.map_eq_ok.mp hname
    exact iff_of_true hkind rfl

theorem TableTarget.isCanonical_of_check {args : TableTarget String} {table : TableTarget Value}
    (h : TableTarget.check args = .ok table) :
  table.IsCanonical
  := by
  obtain ⟨_, hscope, hrest⟩ := Except.bind_eq_ok.mp h
  obtain ⟨name, -, hpure⟩ := Except.bind_eq_ok.mp hrest
  obtain rfl := Except.ok.inj hpure
  rw [checkScope] at hscope
  split_ifs at hscope with hboth
  rintro ⟨honly, hdescendants⟩
  exact hboth (Bool.and_eq_true_iff.mpr ⟨honly, hdescendants⟩)

/-- A form without a query that is kept and writes something is canonical. -/
theorem Clause.IsKept.isCanonical {clause : Clause} {registry : Registry}
    {form : clause.Form Token} {args : clause.Args} (h : clause.IsKept registry form args)
    (hquery : clause.HoldsNoQuery form) (hwrites : (clause.template form).isSome = true) :
  clause.IsCanonical form
  := by
  obtain ⟨checked, hcheck, hshape, -⟩ := h.exists_checked
  have hiff : clause.IsCanonical form ↔ clause.IsCanonical checked := by
    rw [← clause.isCanonical_map (fun _ => ()) form, ← clause.isCanonical_map (fun _ => ()) checked]
    exact iff_of_eq (congrArg clause.IsCanonical hshape)
  cases clause with
  | flag f =>
    have hon : ∀ isOn, (f.template isOn : Option (Template Token)).isSome = true → isOn = true := by
      rintro (_ | _) h
      · contradiction
      · rfl
    exact hon form hwrites
  | role r => exact hiff.mpr (RoleSpec.isCanonical_of_check (refusing_eq_ok.mp hcheck))
  | table l => exact hiff.mpr (TableTarget.isCanonical_of_check (refusing_eq_ok.mp hcheck))
  | condition c => exact hquery
  | _ => trivial

/-! ### Fragments -/

namespace Fragment

variable {clause : Clause} {arity : Arity}

/-- The forms that write something. -/
def written (fragment : Fragment clause arity) : List (clause.Form Token) :=
  fragment.items.filter fun form => (clause.template form).isSome

/-- The forms that write something, with the names of their tokens. -/
def wording (fragment : Fragment clause arity) : List (clause.Form String) :=
  fragment.written.map (clause.traversal.map Token.name)

/-- A fragment writes nothing exactly when none of its forms does. -/
theorem wording_eq_nil_iff (fragment : Fragment clause arity) :
  fragment.wording = [] ↔ fragment.render = none
  := by
  rw [render_eq_none_iff, wording, List.map_eq_nil_iff, written, List.filter_eq_nil_iff]
  simp only [← Clause.template_eq_none_iff, Option.not_isSome_iff_eq_none]

theorem listTemplate_behind (forms : List (clause.Form Token)) :
  ((clause.listTemplate forms).map (word " " ++ ·)).getD []
    = clause.writeAll .many (forms.filter fun form => (clause.template form).isSome)
  := by
  rw [Clause.listTemplate, clause.filterMap_template]
  cases forms.filter fun form => (clause.template form).isSome with
  | nil => rfl
  | cons form forms => rfl

/-- What a fragment writes behind the text before it. -/
theorem template_behind (fragment : Fragment clause arity) :
  (fragment.template.map (word " " ++ ·)).getD [] = clause.writeAll arity fragment.written
  := by
  obtain ⟨content⟩ := fragment
  cases arity with
  | one =>
    cases content with
    | none => rfl
    | some form =>
      show ((clause.template form).map (word " " ++ ·)).getD []
        = behindEach " " clause.write ([form].filter fun form => (clause.template form).isSome)
      cases h : clause.template form with
      | none =>
        rw [List.filter_cons_of_neg (by simp [h])]
        rfl
      | some t =>
        rw [List.filter_cons_of_pos (by simp [h]), behindEach, List.filter_nil,
          List.flatMap_singleton, Clause.write, h]
        rfl
  | many => exact listTemplate_behind content

end Fragment

/-! ### Statements -/

/-- The fields of `ALTER TABLE` in an order of which both forms are parts. -/
def AlterTable.order : List AlterTable.Field :=
  [.ifExists, .only, .allInTablespace, .name, .wildcard, .ownedBy, .actions, .renameColumn,
    .renameTo, .schema, .tablespace, .noWait]

theorem AlterTable.mem_order :
  ∀ field, field ∈ order
  := by
  rintro (_ | _) <;> decide

namespace StatementKind

/-- The fields of a kind of statement in an order of which all shapes are parts. -/
def order : (kind : StatementKind) → List kind.grammar.Field
  | .alterTable => AlterTable.order
  | kind => kind.grammar.fields

variable (kind : StatementKind)

theorem mem_order (field : kind.grammar.Field) :
  field ∈ kind.order
  := by
  cases kind with
  | alterTable => exact AlterTable.mem_order field
  | _ => apply Grammar.mem_fields

/-- The fields of each shape stand in the order. -/
theorem filter_order :
  ∀ shape ∈ kind.shapes, shape.fields = kind.order.filter (· ∈ shape.fields)
  := by
  cases kind <;> decide

/-- A layout is a part of the order. -/
theorem layout_eq_filter_order {present : kind.grammar.Field → Bool}
    {fields : List kind.grammar.Field} (h : kind.grammar.layout present = .ok fields) :
  fields = kind.order.filter present
  := by
  obtain ⟨shape, hshape, rfl, -, hcover⟩ := kind.follows_layout h
  rw [kind.filter_order shape hshape, List.filter_filter]
  apply List.filter_congr
  intro field _
  cases hpresent : present field with
  | false => rfl
  | true => exact (Bool.true_and _).trans (decide_eq_true (hcover field hpresent))

/-- What may go on behind a field, or be written for it. -/
def patterns (field : kind.grammar.Field) : List (Template Unit) :=
  (kind.grammar.clause field).fences (kind.grammar.arity field)
    ++ (kind.grammar.clause field).continuationsAll (kind.grammar.arity field)

/-- No field begins like one before it, or with what may go on behind one before it. -/
theorem pairwise_order :
  kind.order.Pairwise fun f g => ∀ p ∈ kind.patterns f,
    ∀ fence ∈ (kind.grammar.clause g).fences (kind.grammar.arity g), Clash p fence
  := by
  cases kind <;> decide +kernel

theorem nil_not_mem_patterns :
  ∀ field ∈ kind.order, [] ∉ kind.patterns field
  := by
  cases kind <;> decide +kernel

end StatementKind

namespace Statement

variable {grammar : Grammar} {statement : Statement grammar}

/-- The names of the tokens in a statement stand in its text. -/
theorem mapSlots_name {template : Template Token}
    (hsigil : statement.registry.config.sigil = "$") (h : statement.template.result = .ok template)
    (hlegible : template.IsLegibleWith '$' [] fun token => Numeral.ofId token.id) :
  template.mapSlots Token.name
    = (scan "$" (template.text Token.name)).mapSlots fun numeral => tokenName "$" numeral.value
  := by
  have hchars : statement.registry.config.sigil.toList = ['$'] := by
    rw [hsigil]
    decide
  have hscan := (scan_eq_iff hchars h).mpr hlegible
  rw [hsigil] at hscan
  rw [hscan, mapSlots_mapSlots]
  apply mapSlots_congr
  intro token htoken
  obtain ⟨k, -, rfl⟩ := Registry.contains_iff.mp (contains_of_mem_slots h htoken)
  rw [Numeral.value_ofId, ← hsigil]
  rfl

end Statement

/-- A statement is written as its command and the wording of its fields, in order. -/
theorem StatementKind.template_names (kind : StatementKind) {statement : Statement kind.grammar}
    {template : Template Token} (h : statement.template.result = .ok template) :
  template.mapSlots Token.name = word kind.grammar.command
    ++ kind.order.flatMap fun field => (kind.grammar.clause field).writeAll
      (kind.grammar.arity field) (statement.fragment field).wording
  := by
  obtain ⟨-, fields, hlayout, rfl⟩ := Statement.of_template_eq_ok h
  have hfields : fields = kind.order.filter statement.isPresent :=
    kind.layout_eq_filter_order (Except.mapError_eq_ok.mp hlayout)
  have hparts : fields.filterMap (fun field => (statement.fragment field).template)
      = kind.order.filterMap fun field => (statement.fragment field).template := by
    rw [hfields, List.filterMap_filter]
    apply List.filterMap_congr
    intro field _
    rw [Statement.isPresent]
    cases (statement.fragment field).template <;> rfl
  rw [spaced_cons, hparts, behindEach_filterMap, mapSlots_append, mapSlots_word,
    mapSlots_flatMap]
  simp only [Fragment.template_behind, Fragment.wording, Clause.writeAll_map]

/-- The forms of a field that write something are canonical. -/
theorem Statement.isCanonical_of_mem_wording {grammar : Grammar} {statement : Statement grammar}
    {journal : Journal grammar} (hkept : statement.Agrees Clause.IsKept journal)
    (hquery : statement.HoldsNoQuery) (field : grammar.Field) :
  ∀ form ∈ (statement.fragment field).wording, (grammar.clause field).IsCanonical form
  := by
  have hcanonical := hkept.forall_items field (P := fun form =>
    ((grammar.clause field).template form).isSome = true →
      (grammar.clause field).HoldsNoQuery form → (grammar.clause field).IsCanonical form)
    fun form args hform hwrites hnone => hform.isCanonical hnone hwrites
  intro name hname
  obtain ⟨form, hform, rfl⟩ := List.mem_map.mp hname
  obtain ⟨hitem, hwrites⟩ := List.mem_filter.mp hform
  rw [Clause.isCanonical_map]
  exact hcanonical form hitem hwrites (hquery field form hitem)

/-- What a statement is written as can be read in its text. -/
theorem StatementKind.wording_of_sql (kind : StatementKind) {statement : Statement kind.grammar}
    {journal : Journal kind.grammar} (hkept : statement.Agrees Clause.IsKept journal)
    (hquery : statement.HoldsNoQuery) (hsigil : statement.registry.config.sigil = "$")
    {sql : String} (h : statement.sql.result = .ok sql) :
  (scan "$" sql).mapSlots (fun numeral => tokenName "$" numeral.value)
    = word kind.grammar.command ++ kind.order.flatMap fun field =>
      (kind.grammar.clause field).writeAll (kind.grammar.arity field)
        (statement.fragment field).wording
  := by
  rw [Statement.sql_eq] at h
  obtain ⟨template, htemplate, rfl⟩ := Except.map_eq_ok.mp h
  have hlegible : template.IsLegibleWith '$' [] fun token => Numeral.ofId token.id := by
    apply (kind.isLegibleWith_template_iff Clause.isMark_dollar hkept hquery htemplate).mpr
    exact fun field form _ => Clause.not_isAmbiguous_dollar _ form
  rw [← Statement.mapSlots_name hsigil htemplate hlegible, kind.template_names htemplate]

/-- Different statements are written differently: when two statements of one kind without queries
have the same text, each field has the same forms that write something, with the same names of
tokens. -/
theorem sql_determines_wording (kind : StatementKind) {config config' : Config}
    (hsigil : config.sigil = "$") (hsigil' : config'.sigil = "$")
    (calls calls' : List (Call kind.grammar)) {sql : String} :
  let final := ((Statement.new kind.grammar config).run calls).1
  let final' := ((Statement.new kind.grammar config').run calls').1
  final.HoldsNoQuery → final'.HoldsNoQuery →
  final.sql.result = .ok sql → final'.sql.result = .ok sql →
    ∀ field, (final.fragment field).wording = (final'.fragment field).wording
      ∧ ((final.fragment field).render = none ↔ (final'.fragment field).render = none)
  := by
  intro final final' hquery hquery' h h' field
  have hkept := Statement.agrees_isKept config calls
  have hkept' := Statement.agrees_isKept config' calls'
  have hconfig : final.registry.config = config := Statement.config_run _ calls
  have hconfig' : final'.registry.config = config' := Statement.config_run _ calls'
  have hread := kind.wording_of_sql hkept hquery (by rw [hconfig, hsigil]) h
  rw [kind.wording_of_sql hkept' hquery' (by rw [hconfig', hsigil']) h'] at hread
  have hdecodes := fun field => (kind.grammar.clause field).decodes_writeAll (α := String)
    (kind.grammar.arity field)
  have hfences := fun field => (kind.grammar.clause field).fences_writeAll (α := String)
    (kind.grammar.arity field)
  have hwording := eq_of_flatMap_eq hdecodes hfences kind.pairwise_order kind.nil_not_mem_patterns
    (Statement.isCanonical_of_mem_wording hkept hquery)
    (Statement.isCanonical_of_mem_wording hkept' hquery')
    (List.append_cancel_left hread).symm field (kind.mem_order field)
  use hwording
  rw [← Fragment.wording_eq_nil_iff, hwording, Fragment.wording_eq_nil_iff]

/-- Calls that put together a sequence, of which some have no effect on its text. -/
def detouredSequence : List (Call StatementKind.alterSequence.grammar) :=
  [.set .name (some "draft"), .reset, .set .name (some "s"), .set .restart (some none),
    .set .cache (some (3 : Int64)), .set .cycle (some false)]

theorem sql_determines_wording_of_detouredSequence :
  let final := ((Statement.new StatementKind.alterSequence.grammar {}).run shuffledSequence).1
  let final' := ((Statement.new StatementKind.alterSequence.grammar ⟨"$", 1, 9⟩).run
    detouredSequence).1
  final.sql.result = .ok "ALTER SEQUENCE $1 RESTART CACHE 3 NO CYCLE"
    ∧ final'.sql.result = .ok "ALTER SEQUENCE $1 RESTART CACHE 3 NO CYCLE"
    ∧ ∀ field, (final.fragment field).wording = (final'.fragment field).wording
      ∧ ((final.fragment field).render = none ↔ (final'.fragment field).render = none)
  := by
  have hcalls : ∀ call ∈ shuffledSequence, call.HasNoQuery := by
    simp only [shuffledSequence, List.forall_mem_cons]
    exact ⟨trivial, trivial, trivial, trivial, trivial, List.forall_mem_nil _⟩
  have hcalls' : ∀ call ∈ detouredSequence, call.HasNoQuery := by
    simp only [detouredSequence, List.forall_mem_cons]
    exact ⟨trivial, trivial, trivial, trivial, trivial, trivial, List.forall_mem_nil _⟩
  have hsql : ((Statement.new StatementKind.alterSequence.grammar {}).run
      shuffledSequence).1.sql.result
        = .ok "ALTER SEQUENCE $1 RESTART CACHE 3 NO CYCLE" := by cbv
  have hsql' : ((Statement.new StatementKind.alterSequence.grammar ⟨"$", 1, 9⟩).run
      detouredSequence).1.sql.result
        = .ok "ALTER SEQUENCE $1 RESTART CACHE 3 NO CYCLE" := by cbv
  use hsql, hsql'
  exact sql_determines_wording .alterSequence rfl rfl shuffledSequence detouredSequence
    (Statement.holdsNoQuery_run _ hcalls) (Statement.holdsNoQuery_run _ hcalls') hsql hsql'

end BoundSql
