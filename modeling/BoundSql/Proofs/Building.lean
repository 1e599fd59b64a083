import BoundSql.Proofs.Journal
import BoundSql.Proofs.Layout
import Mathlib

/-!
# Building statements

When a statement can be built, its text is read back as exactly the tokens that it was
written with, and these stand for the literals of the arguments in force, in the order in
which the fields are written (`build_reads_back`).
-/

namespace BoundSql

open Stateful

/-! ### Fragments -/

namespace Fragment

variable {clause : Clause} {arity : Arity}

theorem slots_template (fragment : Fragment clause arity) :
  (fragment.template.map Template.slots).getD [] = fragment.items.flatMap clause.written
  := by
  obtain ⟨content⟩ := fragment
  cases arity with
  | one =>
    cases content with
    | none => rfl
    | some form =>
      show ((clause.template form).map Template.slots).getD [] = [form].flatMap clause.written
      rw [Clause.slots_template, List.flatMap_singleton]
  | many => exact Clause.slots_listTemplate clause content

/-- What a fragment writes is read back when what each form writes is. -/
theorem isLegibleWith_template_iff {s : Char} {sigil : List Char} (hmark : Scan.IsMark s sigil)
    {numeral : Token → Numeral} (fragment : Fragment clause arity) :
  (∀ t ∈ fragment.template, t.IsLegibleWith s sigil numeral)
    ↔ ∀ form ∈ fragment.items, ∀ t ∈ clause.template form, t.IsLegibleWith s sigil numeral
  := by
  obtain ⟨content⟩ := fragment
  cases arity with
  | one =>
    cases content with
    | none => exact iff_of_true nofun nofun
    | some form =>
      have hitems : (⟨some form⟩ : Fragment clause .one).items = [form] := rfl
      rw [hitems, List.forall_mem_singleton]
      rfl
  | many => exact clause.isLegibleWith_listTemplate_iff hmark content

/-- Whoever gets a fragment has shown a registry that knows all its tokens. -/
theorem contains_of_get {fragment got : Fragment clause arity} {registry : Registry}
    (h : (fragment.get registry).result = .ok got) :
  ∀ token ∈ fragment.tokens, registry.contains token = true
  := by
  rw [get, Traced.result_bind] at h
  obtain ⟨_, hverify, -⟩ := Except.bind_eq_ok.mp h
  intro token htoken
  obtain ⟨form, hform, hliteral⟩ := List.mem_flatMap.mp htoken
  have hok := Traced.of_result_forM hverify form hform
  rw [verify] at hok
  split at hok
  next hfind =>
    rw [List.find?_eq_none] at hfind
    simpa using hfind token hliteral
  next => cases hok

end Fragment

namespace Clause

/-- What a form writes is among its literals. -/
theorem mem_literals_of_mem_written (clause : Clause) {α : Type} {form : clause.Form α} {a : α}
    (h : a ∈ clause.written form) :
  a ∈ clause.literals form
  := by
  cases clause with
  | condition c =>
    cases form with
    | literal b => exact h
    | query absorbed => exact Absorbed.mem_entries_of_mem_slots h
  | _ => exact h

end Clause

/-! ### Statements -/

/-- A registry whose entries all have values has as many as these. -/
theorem Registry.size_eq_length {registry : Registry} {values : List Value}
    (h : registry.boundValues = .ok values) :
  registry.size = values.length
  := by
  rw [size, ← Array.length_toList, boundValues_eq_ok.mp h, List.length_map]

/-- Where all tokens have values, the value of a token stands at its position among these. -/
theorem Registry.getElem?_eq_lookup {registry : Registry} {values : List Value}
    (h : registry.boundValues = .ok values) {token : Token}
    (htoken : registry.contains token = true) :
  values[token.id - registry.firstId]? = registry.lookup token
  := by
  obtain ⟨k, hk, rfl⟩ := contains_iff.mp htoken
  have hposition : (registry.tokenOf (registry.firstId + k)).id - registry.firstId = k :=
    Nat.add_sub_cancel_left _ _
  rw [size_eq_length h] at hk
  have hknown : registry.value? (registry.tokenOf (registry.firstId + k))
      = .ok (some values[k]) := by
    apply value?_eq_ok.mpr
    use k, rfl
    rw [boundValues_eq_ok.mp h, List.getElem?_map, List.getElem?_eq_getElem hk]
    rfl
  rw [hposition, List.getElem?_eq_getElem hk, lookup_eq_some.mpr hknown]

namespace Statement

variable {grammar : Grammar} {statement : Statement grammar}

theorem config_of_transition {call : Call grammar} {result : Except Error (Reply grammar)}
    {changed : Statement grammar} (h : Transition statement call result changed) :
  changed.registry.config = statement.registry.config
  := by
  cases h with
  | bound field args checked form registry fragment hbound hitems =>
    rw [registry_put]
    show registry.config = _
    rw [hbound.changed_eq, Registry.config_append]
  | _ => rfl

/-- The configuration of a statement stays as it is. -/
theorem config_run (statement : Statement grammar) (calls : List (Call grammar)) :
  (statement.run calls).1.registry.config = statement.registry.config
  := by
  induction calls generalizing statement with
  | nil => rfl
  | cons call calls ih =>
    have hstep := config_of_transition (transition_step statement call)
    rw [← hstep]
    apply ih

/-- A statement that has a template has all its tokens from its own registry, and consists
of the fields of its layout. -/
theorem of_template_eq_ok {template : Template Token}
    (h : statement.template.result = .ok template) :
  (∀ field, ∀ token ∈ (statement.fragment field).tokens,
      statement.registry.contains token = true)
    ∧ ∃ fields, statement.layout = .ok fields
      ∧ template = Template.spaced (Template.word grammar.command
        :: fields.filterMap fun field => (statement.fragment field).template)
  := by
  rw [Statement.template, Traced.result_bind] at h
  obtain ⟨_, hget, hrest⟩ := Except.bind_eq_ok.mp h
  rw [Traced.result_bind] at hrest
  obtain ⟨fields, hlayout, hpure⟩ := Except.bind_eq_ok.mp hrest
  constructor
  · intro field
    have hok := Traced.of_result_forM hget field (grammar.mem_fields field)
    rw [Traced.result_discard] at hok
    obtain ⟨got, hgot, -⟩ := Except.map_eq_ok.mp hok
    apply Fragment.contains_of_get hgot
  · use fields, hlayout, (Except.ok.inj hpure).symm

theorem of_build_eq_ok {q : Query} (h : statement.build.result = .ok q) :
  ∃ template, statement.template.result = .ok template
    ∧ q.sql = template.text Token.name
    ∧ statement.registry.boundValues = .ok q.values
    ∧ q.sigil = statement.registry.config.sigil
    ∧ q.firstId = statement.registry.config.firstId
  := by
  rw [build, Traced.result_bind] at h
  obtain ⟨text, htext, hrest⟩ := Except.bind_eq_ok.mp h
  rw [Traced.result_bind] at hrest
  obtain ⟨values, hvalues, hrest⟩ := Except.bind_eq_ok.mp hrest
  rw [Traced.result_bind] at hrest
  obtain ⟨_, -, hpure⟩ := Except.bind_eq_ok.mp hrest
  obtain rfl := Except.ok.inj hpure
  rw [sql, Traced.result_bind] at htext
  obtain ⟨template, htemplate, hpure⟩ := Except.bind_eq_ok.mp htext
  obtain rfl := Except.ok.inj hpure
  use template, htemplate, rfl, hvalues, rfl

/-- What stands in the slots of a statement: what its fields write, in order. -/
theorem slots_of_template {template : Template Token}
    (h : statement.template.result = .ok template) :
  ∃ fields, statement.layout = .ok fields
    ∧ template.slots = fields.flatMap fun field =>
        (statement.fragment field).items.flatMap (grammar.clause field).written
  := by
  obtain ⟨-, fields, hlayout, rfl⟩ := of_template_eq_ok h
  use fields, hlayout
  rw [Template.slots_spaced, List.flatMap_cons, Template.slots_word, List.nil_append,
    Template.flatMap_slots_filterMap]
  simp only [Fragment.slots_template]

/-- The tokens of a template are known to the registry. -/
theorem contains_of_mem_slots {template : Template Token}
    (h : statement.template.result = .ok template) {token : Token}
    (htoken : token ∈ template.slots) :
  statement.registry.contains token = true
  := by
  obtain ⟨fields, -, hslots⟩ := slots_of_template h
  rw [hslots] at htoken
  obtain ⟨field, -, hfield⟩ := List.mem_flatMap.mp htoken
  obtain ⟨form, hform, hwritten⟩ := List.mem_flatMap.mp hfield
  apply (of_template_eq_ok h).1 field
  apply List.mem_flatMap.mpr
  use form, hform
  apply Clause.mem_literals_of_mem_written _ hwritten

/-- A statement is read back when what each field of its layout writes is. -/
theorem isLegibleWith_template_iff {s : Char} {sigil : List Char} (hmark : Scan.IsMark s sigil)
    {numeral : Token → Numeral} (hcommand : ∀ c ∈ grammar.command.toList, c.isDigit = false)
    {template : Template Token} {fields : List grammar.Field}
    (h : statement.template.result = .ok template) (hlayout : statement.layout = .ok fields) :
  template.IsLegibleWith s sigil numeral ↔ ∀ field ∈ fields,
    ∀ t ∈ (statement.fragment field).template, t.IsLegibleWith s sigil numeral
  := by
  obtain ⟨-, layout, hlayout', rfl⟩ := of_template_eq_ok h
  obtain rfl := Except.ok.inj (hlayout.symm.trans hlayout')
  rw [Template.isLegibleWith_spaced_iff hmark, List.forall_mem_cons, List.forall_mem_filterMap]
  apply and_iff_right (Template.IsLegibleWith.word hcommand)

/-- A statement of which all forms are readable has a legible template. -/
theorem isLegible_template {template : Template Token} {journal : Journal grammar}
    (h : statement.template.result = .ok template) (hrecords : statement.Records journal)
    (hcommand : ∀ c ∈ grammar.command.toList, c.isDigit = false) :
  template.IsLegible fun token => Numeral.ofId token.id
  := by
  obtain ⟨-, fields, hlayout, -⟩ := of_template_eq_ok h
  apply (isLegibleWith_template_iff Clause.isMark_dollar hcommand h hlayout).mpr
  intro field _
  apply (Fragment.isLegibleWith_template_iff Clause.isMark_dollar _).mpr
  intro form hform
  apply Clause.isLegible_template
  exact Agrees.forall_items (R := Clause.IsHeld) hrecords.forall₂_isHeld field
    (fun form args hheld => hheld.isReadable) form hform

/-- The registry knows what a field writes as the literals in force for it. -/
theorem map_lookup_field {journal : Journal grammar} (hrecords : statement.Records journal)
    (field : grammar.Field) :
  ((statement.fragment field).items.flatMap (grammar.clause field).written).map
      statement.registry.lookup
    = ((journal field).flatMap ((grammar.clause field).supplied Query.spoken)).map some
  := by
  have hheld := hrecords.forall₂_isHeld field
  generalize (statement.fragment field).items = items at hheld
  generalize journal field = inForce at hheld
  induction hheld with
  | nil => rfl
  | cons hform _ ih =>
    rw [List.flatMap_cons, List.flatMap_cons, List.map_append, List.map_append, ih,
      hform.map_lookup_written]

/-- A field that writes nothing has no literals in force. -/
theorem supplied_of_not_isPresent {journal : Journal grammar}
    (hrecords : statement.Records journal) {field : grammar.Field}
    (h : statement.isPresent field = false) :
  (journal field).flatMap ((grammar.clause field).supplied Query.spoken) = []
  := by
  have hnone : (statement.fragment field).template = none := by
    rwa [isPresent, Option.isSome_eq_false_iff, Option.isNone_iff_eq_none] at h
  have hwritten := (statement.fragment field).slots_template
  have hlookup := map_lookup_field hrecords field
  rw [← hwritten, hnone] at hlookup
  apply List.map_eq_nil_iff.mp hlookup.symm

/-- The registry knows what the statement writes as the literals in force. -/
theorem map_lookup_slots {template : Template Token} {journal : Journal grammar}
    (h : statement.template.result = .ok template) (hrecords : statement.Records journal) :
  ∃ fields, statement.layout = .ok fields
    ∧ template.slots.map statement.registry.lookup
      = (fields.flatMap fun field =>
          (journal field).flatMap ((grammar.clause field).supplied Query.spoken)).map some
  := by
  obtain ⟨fields, hlayout, hslots⟩ := slots_of_template h
  use fields, hlayout
  rw [hslots, List.map_flatMap, List.map_flatMap]
  simp only [map_lookup_field hrecords]

/-- The text of a statement has exactly the tokens that it is written with when its template is
legible. -/
theorem scan_eq_iff {s : Char} {sigil : List Char} {template : Template Token}
    (hsigil : statement.registry.config.sigil.toList = s :: sigil)
    (h : statement.template.result = .ok template) :
  scan statement.registry.config.sigil (template.text Token.name)
      = template.mapSlots (fun token => Numeral.ofId token.id)
    ↔ template.IsLegibleWith s sigil fun token => Numeral.ofId token.id
  := by
  have hsigils : ∀ token ∈ template.slots, token.sigil = statement.registry.config.sigil := by
    intro token htoken
    obtain ⟨k, -, rfl⟩ := Registry.contains_iff.mp (contains_of_mem_slots h htoken)
    rfl
  rw [scan_eq_scanFrom hsigil, Template.toList_text_name hsigils, hsigil]
  exact Scan.legible_iff.symm

/-- The text of a built query has exactly the tokens that the statement was written with. -/
theorem scan_of_build {template : Template Token} {journal : Journal grammar}
    (hrecords : statement.Records journal)
    (hcommand : ∀ c ∈ grammar.command.toList, c.isDigit = false)
    (hsigil : statement.registry.config.sigil = "$")
    (h : statement.template.result = .ok template) :
  scan "$" (template.text Token.name) = template.mapSlots fun token => Numeral.ofId token.id
  := by
  have hchars : statement.registry.config.sigil.toList = ['$'] := by
    rw [hsigil]
    decide
  rw [← hsigil]
  apply (scan_eq_iff hchars h).mpr
  apply isLegible_template h hrecords hcommand

/-- The tokens of a built query refer to the positions of their values. -/
theorem references_eq {template : Template Token} {q : Query} (hsigil : q.sigil ≠ "")
    (h : statement.template.result = .ok template)
    (hvalues : statement.registry.boundValues = .ok q.values)
    (hfirstId : q.firstId = statement.registry.config.firstId)
    (hscan : scan q.sigil q.sql = template.mapSlots fun token => Numeral.ofId token.id) :
  q.references = .ok (template.mapSlots fun token => token.id - statement.registry.firstId)
  := by
  have hfirst : statement.registry.firstId = q.firstId.toNat := by
    rw [hfirstId]
    rfl
  rw [Query.references_eq_ok, and_iff_right hsigil, hscan, Template.mapSlots_mapSlots,
    Template.mapSlots_mapSlots]
  apply Template.mapSlots_congr
  intro token htoken
  obtain ⟨k, hk, rfl⟩ := Registry.contains_iff.mp (contains_of_mem_slots h htoken)
  apply Query.resolve_eq_ok.mpr
  have hid : (statement.registry.tokenOf (statement.registry.firstId + k)).id
      = statement.registry.firstId + k := rfl
  rw [Numeral.value_ofId, hid, Nat.add_sub_cancel_left, ← Registry.size_eq_length hvalues,
    ← hfirst]
  use hk

/-- The tokens of a built query refer to the values that the registry knows by them. -/
theorem references_of_build {template : Template Token} {q : Query} (hsigil : q.sigil ≠ "")
    (h : statement.template.result = .ok template)
    (hvalues : statement.registry.boundValues = .ok q.values)
    (hfirstId : q.firstId = statement.registry.config.firstId)
    (hscan : scan q.sigil q.sql = template.mapSlots fun token => Numeral.ofId token.id) :
  ∃ references, q.references = .ok references
    ∧ references.slots.map (fun position => q.values[position]?)
      = template.slots.map statement.registry.lookup
  := by
  use template.mapSlots fun token => token.id - statement.registry.firstId
  use references_eq hsigil h hvalues hfirstId hscan
  rw [Template.slots_mapSlots, List.map_map]
  apply List.map_congr_left
  intro token htoken
  apply Registry.getElem?_eq_lookup hvalues (contains_of_mem_slots h htoken)

/-- With its values in the places of its tokens, the text of a built query is the template with
the values that the registry knows by these. -/
theorem meaning_of_build {template : Template Token} {q : Query} (hsigil : q.sigil ≠ "")
    (h : statement.template.result = .ok template)
    (hvalues : statement.registry.boundValues = .ok q.values)
    (hfirstId : q.firstId = statement.registry.config.firstId)
    (hscan : scan q.sigil q.sql = template.mapSlots fun token => Numeral.ofId token.id) :
  ∃ meaning, q.meaning = .ok meaning
    ∧ meaning.mapSlots some = template.mapSlots statement.registry.lookup
  := by
  have hreferences := references_eq hsigil h hvalues hfirstId hscan
  use Absorbed.template
    ⟨template.mapSlots fun token => token.id - statement.registry.firstId, q.values⟩
  constructor
  · rw [Query.meaning, hreferences]
    rfl
  · apply Eq.trans (Absorbed.mapSlots_template_of_lt _
      (fun position => Query.lt_of_mem_slots hreferences) some)
    rw [Template.mapSlots_mapSlots]
    apply Template.mapSlots_congr
    intro token htoken
    rw [Option.bind_fun_some]
    apply Registry.getElem?_eq_lookup hvalues (contains_of_mem_slots h htoken)

end Statement

theorem StatementKind.noDigit_command (kind : StatementKind) :
  ∀ c ∈ kind.grammar.command.toList, c.isDigit = false
  := by
  cases kind <;> decide

/-- A built query is read back as it was written.  Its text has the tokens of the template
and no others, and reading the values of these tokens from left to right gives the literals
of the arguments in force, field by field in the order of the layout; a query among the
arguments supplies the values that its own tokens refer to.  The fields of the layout are
all different, and the other fields supply no literals. -/
theorem build_reads_back (kind : StatementKind) (config : Config)
    (hsigil : config.sigil = "$") (calls : List (Call kind.grammar))
    (hcalls : ∀ call ∈ calls, call.UsesSigil "$") {q : Query}
    (h : ((Statement.new kind.grammar config).run calls).1.build.result = .ok q) :
  let final := ((Statement.new kind.grammar config).run calls).1
  let inForce := Journal.empty.along (Statement.new kind.grammar config) calls
  let literals (field : kind.grammar.Field) :=
    (inForce field).flatMap ((kind.grammar.clause field).supplied Query.spoken)
  ∃ template fields references,
    final.template.result = .ok template
      ∧ scan "$" q.sql = template.mapSlots (fun token => Numeral.ofId token.id)
      ∧ q.references = .ok references
      ∧ final.layout = .ok fields ∧ fields.Nodup
      ∧ (∀ field, field ∉ fields → literals field = [])
      ∧ references.slots.map (fun position => q.values[position]?)
        = (fields.flatMap literals).map some
  := by
  intro final inForce literals
  have hrecords : final.Records inForce := (Statement.records_empty _).run hcalls
  have hconfig : final.registry.config = config := Statement.config_run _ calls
  obtain ⟨template, htemplate, hsql, hvalues, hqsigil, hfirstId⟩ := Statement.of_build_eq_ok h
  have hfinal : final.registry.config.sigil = "$" := by rw [hconfig, hsigil]
  have hscan := Statement.scan_of_build hrecords kind.noDigit_command hfinal htemplate
  rw [← hsql] at hscan
  have hdollar : q.sigil = "$" := by rw [hqsigil, hfinal]
  have hne : q.sigil ≠ "" := by
    rw [hdollar]
    decide
  obtain ⟨references, hreferences, hread⟩ := Statement.references_of_build hne htemplate hvalues
    hfirstId (by rw [hdollar, hscan])
  obtain ⟨fields, hlayout, hliterals⟩ := Statement.map_lookup_slots htemplate hrecords
  obtain ⟨hnodup, hmem⟩ := kind.lists_layout (Except.mapError_eq_ok.mp hlayout)
  use template, fields, references, htemplate, hscan, hreferences, hlayout, hnodup
  constructor
  · intro field hfield
    apply Statement.supplied_of_not_isPresent hrecords
    rw [← Bool.not_eq_true, ← hmem]
    apply hfield
  · rw [hread, hliterals]

/-- Calls that put together a policy whose condition is a query that uses its values in the
opposite order. -/
def swappedPolicy : List (Call StatementKind.alterPolicy.grammar) :=
  [.set .name (some "p"), .set .onTable (some "t"),
    .set .using (some (.query ⟨"a = $2 OR b < $1", [.int 4, .int 5], "$", 1⟩))]

theorem build_reads_back_of_swappedPolicy :
  ∃ q, ((Statement.new StatementKind.alterPolicy.grammar {}).run swappedPolicy).1.build.result
      = .ok q
    ∧ q.sql = "ALTER POLICY $1 ON $2 USING (a = $4 OR b < $3)"
    ∧ ∃ references, q.references = .ok references
      ∧ references.slots.map (fun position => q.values[position]?)
        = [some (.text "p"), some (.text "t"), some (.int 5), some (.int 4)]
  := by
  have hbuild : ((Statement.new StatementKind.alterPolicy.grammar {}).run
      swappedPolicy).1.build.result = .ok ⟨"ALTER POLICY $1 ON $2 USING (a = $4 OR b < $3)",
        [.text "p", .text "t", .int 4, .int 5], "$", 1⟩ := by cbv
  have hlayout : ((Statement.new StatementKind.alterPolicy.grammar {}).run
      swappedPolicy).1.layout = .ok [.name, .onTable, .using] := by cbv
  have hcalls : ∀ call ∈ swappedPolicy, call.UsesSigil "$" := by
    simp only [swappedPolicy, List.forall_mem_cons]
    use trivial, trivial, rfl
    simp
  have hname : ((Journal.empty.along (Statement.new StatementKind.alterPolicy.grammar {})
      swappedPolicy) .name).flatMap
        ((StatementKind.alterPolicy.grammar.clause .name).supplied Query.spoken)
      = [.text "p"] := by cbv
  have honTable : ((Journal.empty.along (Statement.new StatementKind.alterPolicy.grammar {})
      swappedPolicy) .onTable).flatMap
        ((StatementKind.alterPolicy.grammar.clause .onTable).supplied Query.spoken)
      = [.text "t"] := by cbv
  have husing : ((Journal.empty.along (Statement.new StatementKind.alterPolicy.grammar {})
      swappedPolicy) .using).flatMap
        ((StatementKind.alterPolicy.grammar.clause .using).supplied Query.spoken)
      = [.int 5, .int 4] := by cbv
  obtain ⟨template, fields, references, -, -, hreferences, hfields, -, -, hread⟩ :=
    build_reads_back .alterPolicy {} rfl swappedPolicy hcalls hbuild
  rw [hlayout] at hfields
  obtain rfl := Except.ok.inj hfields
  refine ⟨_, hbuild, rfl, references, hreferences, ?_⟩
  have hbehind := congrArg (· ++ ([] : List Value)) husing
  have hliterals := congrArg₂ (· ++ ·) hname (congrArg₂ (· ++ ·) honTable hbehind)
  apply Eq.trans hread (congrArg (List.map some) hliterals)

end BoundSql
