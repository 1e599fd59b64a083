import BoundSql.Proofs.Arrangement

/-!
# Ambiguous text

A valid configuration has a sigil that no blank and no keyword can be taken for.  Still there are
two things beside which it is no sigil: it may be the minus sign of a number, and it may consist
of brackets of which the one before a literal makes one more.  A statement without queries that
is built has exactly the tokens that its fields hold if and only if no form meets either of the
two (`tokens_are_those_held_iff`); the configuration with the sigil `-` is accepted all the same
(`minus_is_read_in_increment`).
-/

namespace BoundSql

/-! ### Sigils of valid configurations -/

/-- A valid configuration has a sigil without blanks that does not end in a digit. -/
theorem Config.exists_isMark {config : Config} (h : config.validate = .ok ()) :
  ∃ s sigil, config.sigil.toList = s :: sigil ∧ Scan.IsMark s sigil
  := by
  have hfault : config.fault? = none := by
    rw [validate] at h
    split at h
    next => contradiction
    next hnone => exact hnone
  rw [fault?] at hfault
  split_ifs at hfault with hempty hbarred hdigit
  cases hsigil : config.sigil.toList with
  | nil => exact absurd (String.toList_eq_nil_iff.mp hsigil) (by simpa using hempty)
  | cons s sigil =>
    refine ⟨s, sigil, rfl, ?_, ?_⟩
    · intro hblank
      apply hbarred
      rw [hsigil]
      exact List.any_eq_true.mpr ⟨' ', hblank, by decide⟩
    · rw [endsInDigit, hsigil, List.getLast?_eq_some_getLast (List.cons_ne_nil s sigil),
        Option.any_some, Bool.not_eq_true] at hdigit
      exact hdigit

/-! ### Forms without queries -/

namespace Clause

variable {clause : Clause} {registry : Registry} {form : clause.Form Token}
  {args : clause.Args}

/-- The form of arguments without a query holds no query. -/
theorem IsKept.holdsNoQuery (h : clause.IsKept registry form args)
    (hquery : clause.HasNoQuery args) :
  clause.HoldsNoQuery form
  := by
  obtain ⟨checked, hcheck, hshape, -⟩ := h.exists_checked
  cases clause with
  | condition c =>
    cases args with
    | text s =>
      rw [(Expression.check_text_eq_ok.mp hcheck).2] at hshape
      cases form with
      | literal token => trivial
      | query absorbed => cases hshape
    | query q => contradiction
  | _ => trivial

theorem IsKept.isProper (h : clause.IsKept registry form args) :
  ∀ token ∈ clause.literals form, (Numeral.ofId token.id).IsProper
  := fun token htoken => Numeral.isProper_ofId (h.isTokenId token htoken)

end Clause

/-- The call passes no query. -/
def Call.HasNoQuery {grammar : Grammar} : Call grammar → Prop
  | .set field (some args) => (grammar.clause field).HasNoQuery args
  | _ => True

namespace Statement

variable {grammar : Grammar} {statement : Statement grammar} {journal : Journal grammar}

/-- No field holds a query. -/
def HoldsNoQuery (statement : Statement grammar) : Prop :=
  ∀ field, ∀ form ∈ (statement.fragment field).items, (grammar.clause field).HoldsNoQuery form

/-- Calls that pass no query leave a statement that holds none. -/
theorem holdsNoQuery_run (config : Config) {calls : List (Call grammar)}
    (hcalls : ∀ call ∈ calls, call.HasNoQuery) :
  ((Statement.new grammar config).run calls).1.HoldsNoQuery
  := by
  have hagrees : ((Statement.new grammar config).run calls).1.Agrees
      (fun clause _ form _ => clause.HoldsNoQuery form)
      (Journal.empty.along (Statement.new grammar config) calls) := by
    apply Agrees.run (agrees_empty _ _)
    · exact fun clause registry form args hform entries => hform
    · intro field args hmem registry checked form changed hbound
      apply (Clause.isKept_isMade _ _ _ _ _ _ hbound).holdsNoQuery (hcalls _ hmem)
  exact fun field => hagrees.forall_items field fun form args hform => hform

/-- Without queries, a field writes the tokens that it holds. -/
theorem HoldsNoQuery.slots_field (hquery : statement.HoldsNoQuery) (field : grammar.Field) :
  ((statement.fragment field).template.map Template.slots).getD []
    = (statement.fragment field).tokens
  := by
  rw [Fragment.slots_template]
  apply List.flatMap_congr
  exact fun form hform => Clause.written_eq_literals (hquery field form hform)

/-- Without queries, the tokens that are written are those that the fields of the layout hold. -/
theorem HoldsNoQuery.slots_of_template (hquery : statement.HoldsNoQuery)
    {template : Template Token} {fields : List grammar.Field}
    (h : statement.template.result = .ok template) (hlayout : statement.layout = .ok fields) :
  template.slots = fields.flatMap fun field => (statement.fragment field).tokens
  := by
  obtain ⟨layout, hlayout', hslots⟩ := Statement.slots_of_template h
  obtain rfl := Except.ok.inj (hlayout.symm.trans hlayout')
  rw [hslots]
  simp only [← hquery.slots_field, Fragment.slots_template]

end Statement

/-- The template of a statement without queries is legible when no form is ambiguous. -/
theorem StatementKind.isLegibleWith_template_iff (kind : StatementKind) {s : Char}
    {sigil : List Char} (hmark : Scan.IsMark s sigil) {statement : Statement kind.grammar}
    {journal : Journal kind.grammar} (hkept : statement.Agrees Clause.IsKept journal)
    (hquery : statement.HoldsNoQuery) {template : Template Token}
    (h : statement.template.result = .ok template) :
  template.IsLegibleWith s sigil (fun token => Numeral.ofId token.id)
    ↔ ∀ field, ∀ form ∈ (statement.fragment field).items,
      ¬ (kind.grammar.clause field).IsAmbiguous (s :: sigil) form
  := by
  obtain ⟨-, fields, hlayout, -⟩ := Statement.of_template_eq_ok h
  obtain ⟨-, hmem⟩ := kind.lists_layout (Except.mapError_eq_ok.mp hlayout)
  have hfields : ∀ field, (∀ t ∈ (statement.fragment field).template,
      t.IsLegibleWith s sigil fun token => Numeral.ofId token.id)
        ↔ ∀ form ∈ (statement.fragment field).items,
          ¬ (kind.grammar.clause field).IsAmbiguous (s :: sigil) form := by
    intro field
    rw [Fragment.isLegibleWith_template_iff hmark]
    apply forall₂_congr
    intro form hform
    apply Clause.isLegibleWith_template_iff hmark _ _ (hquery field form hform)
    exact hkept.forall_items field (fun form args hform => hform.isProper) form hform
  simp only [← hfields]
  rw [Statement.isLegibleWith_template_iff hmark kind.noDigit_command h hlayout]
  constructor
  · intro hlegible field t ht
    apply hlegible field _ t ht
    apply (hmem field).mpr
    exact Option.isSome_iff_exists.mpr ⟨t, ht⟩
  · exact fun hlegible field _ => hlegible field

/-- A built query without queries inside has exactly the tokens that its fields hold, and no other
text is read as a token, unless a form is ambiguous with the sigil.  With a valid configuration
a form is ambiguous in two cases only: a negative number with the sigil `-`, and a literal in
brackets with a sigil of several brackets. -/
theorem tokens_are_those_held_iff (kind : StatementKind) (config : Config)
    (hvalid : config.validate = .ok ()) (calls : List (Call kind.grammar))
    (hcalls : ∀ call ∈ calls, call.HasNoQuery) {q : Query}
    (h : ((Statement.new kind.grammar config).run calls).1.build.result = .ok q) :
  let final := ((Statement.new kind.grammar config).run calls).1
  let isClear := ∀ field, ∀ form ∈ (final.fragment field).items,
    ¬ (kind.grammar.clause field).IsAmbiguous config.sigil.toList form
  ∃ template fields, final.template.result = .ok template
    ∧ final.layout = .ok fields ∧ fields.Nodup
    ∧ (∀ field, field ∉ fields → (final.fragment field).tokens = [])
    ∧ template.slots = fields.flatMap (fun field => (final.fragment field).tokens)
    ∧ (scan q.sigil q.sql = template.mapSlots (fun token => Numeral.ofId token.id) ↔ isClear)
    ∧ (isClear → ∃ references, q.references = .ok references
      ∧ references.slots.map (config.firstId.toNat + ·) = template.slots.map Token.id)
  := by
  intro final isClear
  have hkept := Statement.agrees_isKept config calls
  have hquery : final.HoldsNoQuery := Statement.holdsNoQuery_run config hcalls
  have hconfig : final.registry.config = config := Statement.config_run _ calls
  obtain ⟨template, htemplate, hsql, hvalues, hqsigil, hfirstId⟩ := Statement.of_build_eq_ok h
  obtain ⟨-, fields, hlayout, -⟩ := Statement.of_template_eq_ok htemplate
  obtain ⟨hnodup, hmem⟩ := kind.lists_layout (Except.mapError_eq_ok.mp hlayout)
  obtain ⟨s, sigil, hchars, hmark⟩ := Config.exists_isMark hvalid
  have hscan : scan q.sigil q.sql = template.mapSlots (fun token => Numeral.ofId token.id)
      ↔ isClear := by
    have hfinal : final.registry.config.sigil.toList = s :: sigil := by rw [hconfig, hchars]
    rw [hqsigil, hsql, Statement.scan_eq_iff hfinal htemplate,
      kind.isLegibleWith_template_iff hmark hkept hquery htemplate, ← hchars]
  refine ⟨template, fields, htemplate, hlayout, hnodup, ?_, ?_, hscan, ?_⟩
  · intro field hfield
    have hnone : (final.fragment field).template = none := by
      rwa [hmem, Statement.isPresent, Option.isSome_iff_ne_none, not_not] at hfield
    rw [← hquery.slots_field, hnone]
    rfl
  · exact hquery.slots_of_template htemplate hlayout
  · intro hclear
    have hfirst : final.registry.firstId = config.firstId.toNat := by
      rw [← hconfig]
      rfl
    have hsigil : q.sigil ≠ "" := by
      rw [hqsigil, hconfig, Ne, ← String.toList_eq_nil_iff, hchars]
      exact List.cons_ne_nil s sigil
    refine ⟨_, Statement.references_eq hsigil htemplate hvalues hfirstId (hscan.mpr hclear), ?_⟩
    rw [Template.slots_mapSlots, List.map_map]
    apply List.map_congr_left
    intro token htoken
    obtain ⟨k, -, rfl⟩ :=
      Registry.contains_iff.mp (Statement.contains_of_mem_slots htemplate htoken)
    rw [← hfirst]
    exact Nat.add_sub_of_le (Nat.le_add_right _ k)

/-- Calls that put together a policy with a condition. -/
def policyWithCondition : List (Call StatementKind.alterPolicy.grammar) :=
  [.set .name (some "p"), .set .onTable (some "t"), .set .using (some (.text "a > 0"))]

theorem tokens_are_those_held_iff_of_bracket :
  (⟨"(", 1, 9⟩ : Config).validate = .ok ()
    ∧ (∀ call ∈ policyWithCondition, call.HasNoQuery)
    ∧ ∃ q, ((Statement.new StatementKind.alterPolicy.grammar ⟨"(", 1, 9⟩).run
        policyWithCondition).1.build.result = .ok q
      ∧ q.sql = "ALTER POLICY (1 ON (2 USING ((3)"
      ∧ ∃ references, q.references = .ok references
  := by
  have hvalid : (⟨"(", 1, 9⟩ : Config).validate = .ok () := by cbv
  have hcalls : ∀ call ∈ policyWithCondition, call.HasNoQuery := by
    simp only [policyWithCondition, List.forall_mem_cons]
    exact ⟨trivial, trivial, trivial, List.forall_mem_nil _⟩
  have hbuild : ((Statement.new StatementKind.alterPolicy.grammar ⟨"(", 1, 9⟩).run
      policyWithCondition).1.build.result
        = .ok ⟨"ALTER POLICY (1 ON (2 USING ((3)",
          [.text "p", .text "t", .text "a > 0"], "(", 1⟩ := by cbv
  have hclear : ∀ field, ∀ form ∈ (((Statement.new StatementKind.alterPolicy.grammar
      ⟨"(", 1, 9⟩).run policyWithCondition).1.fragment field).items,
      ¬ (StatementKind.alterPolicy.grammar.clause field).IsAmbiguous "(".toList form := by
    intro field form _
    cases field with
    | name | onTable | renameTo | toRoles =>
      rintro ⟨n, hn, -⟩
      contradiction
    | _ => exact fun hbrackets => absurd hbrackets.1 (by decide)
  obtain ⟨template, fields, -, -, -, -, -, -, hreferences⟩ :=
    tokens_are_those_held_iff .alterPolicy ⟨"(", 1, 9⟩ hvalid policyWithCondition hcalls hbuild
  obtain ⟨references, hok, -⟩ := hreferences hclear
  exact ⟨hvalid, hcalls, _, hbuild, rfl, references, hok⟩

/-- Calls that put together a sequence with a negative increment. -/
def negativeIncrement : List (Call StatementKind.alterSequence.grammar) :=
  [.set .name (some "s"), .set .incrementBy (some (-5 : Int64))]

/-- With the sigil `-`, which is accepted, a negative increment is read as a token: the built
query has two tokens, of which the second names no value, but its fields hold one. -/
theorem minus_is_read_in_increment :
  (⟨"-", 1, 9⟩ : Config).validate = .ok ()
    ∧ (∀ call ∈ negativeIncrement, call.HasNoQuery)
    ∧ ∃ q, ((Statement.new StatementKind.alterSequence.grammar ⟨"-", 1, 9⟩).run
        negativeIncrement).1.build.result = .ok q
      ∧ q.sql = "ALTER SEQUENCE -1 INCREMENT BY -5"
      ∧ (scan q.sigil q.sql).slots.map Numeral.value = [1, 5]
      ∧ (StatementKind.alterSequence.grammar.fields.flatMap fun field =>
        ((((Statement.new StatementKind.alterSequence.grammar ⟨"-", 1, 9⟩).run
          negativeIncrement).1.fragment field).tokens.map Token.id)) = [1]
      ∧ q.references = .error (.danglingReference "-5" 1)
  := by
  have hvalid : (⟨"-", 1, 9⟩ : Config).validate = .ok () := by cbv
  have hcalls : ∀ call ∈ negativeIncrement, call.HasNoQuery := by
    simp only [negativeIncrement, List.forall_mem_cons]
    exact ⟨trivial, trivial, List.forall_mem_nil _⟩
  have hbuild : ((Statement.new StatementKind.alterSequence.grammar ⟨"-", 1, 9⟩).run
      negativeIncrement).1.build.result
        = .ok ⟨"ALTER SEQUENCE -1 INCREMENT BY -5", [.text "s"], "-", 1⟩ := by cbv
  refine ⟨hvalid, hcalls, _, hbuild, rfl, ?_, ?_, ?_⟩
  · cbv
  · cbv
  · cbv

end BoundSql
