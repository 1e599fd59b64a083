import BoundSql.Proofs.Journal
import BoundSql.Proofs.Refusal
import BoundSql.Proofs.Restoring

/-!
# What getters give back

The getter of a field gives the forms that the field holds.  With the values that the
registry of the statement knows by the tokens in their places, they give back the arguments
that are in force for the field, whatever calls have led there: the ones that its setter has
accepted last, or all since the last time it was cleared where a field holds several.  No
other call changes what a field gives back (`fields_give_back_their_arguments`).
-/

namespace BoundSql

open Stateful

/-! ### What a form gives back -/

/-- An absorbed query gives back the query: its entries stand for the values, and its text
has the value that was meant for each token.  So it is when its text is read again, if its
tokens are marked as those of the query were. -/
structure Absorbed.GivesBack (registry : Registry) (absorbed : Absorbed Token)
    (query : Query) : Prop where
  entries_eq : absorbed.entries.map registry.lookup = query.values.map some
  template_eq : ∃ meaning, query.meaning = .ok meaning
    ∧ absorbed.template.mapSlots registry.lookup = meaning.mapSlots some
    ∧ (query.sigil ≠ "" → query.sigil = registry.config.sigil →
      (scan query.sigil (absorbed.template.text Token.name)).mapSlots
          (fun numeral => registry.lookup (registry.tokenOf numeral.value))
        = meaning.mapSlots some)

namespace Clause

/-- A form gives back arguments: with the values that the registry knows by its tokens, they
can be restored from it, up to the variants that are meant by numbers. -/
def GivesBack : Relation
  | .condition _, registry, .query absorbed, .query query => absorbed.GivesBack registry query
  | clause, registry, form, args =>
    (clause.traverse registry.lookup form >>= clause.restore) = some (clause.normalise args)

/-- A form keeps the arguments: it is their checked form, with proper tokens by which the
registry knows the values in the places of these. -/
structure IsKept (clause : Clause) (registry : Registry) (form : clause.Form Token)
    (args : clause.Args) : Prop where
  exists_checked : ∃ checked, clause.check args = .ok checked
    ∧ clause.traversal.shape form = clause.traversal.shape checked
    ∧ (clause.literals form).map registry.lookup = (clause.literals checked).map some
  isTokenId : ∀ token ∈ clause.literals form, BoundSql.isTokenId token.id = true

variable {clause : Clause} {registry : Registry} {form : clause.Form Token}
  {args : clause.Args}

/-- A registry that remembers more keeps what the other one does. -/
theorem IsKept.remembers (h : clause.IsKept registry form args) {changed : Registry}
    (hremembers : registry.Remembers changed) :
  clause.IsKept changed form args
  := by
  obtain ⟨checked, hcheck, hshape, hlookup⟩ := h.exists_checked
  constructor
  · use checked, hcheck, hshape, hremembers.map_lookup hlookup
  · apply h.isTokenId

theorem isKept_lasts :
  Relation.Lasts IsKept
  := fun _ registry _ _ h entries => h.remembers (registry.remembers_append entries)

theorem isKept_isMade (clause : Clause) (args : clause.Args) :
  Relation.IsMade IsKept clause args
  := by
  intro registry checked form changed h
  constructor
  · use checked, h.check_eq, h.shape_eq
    rw [h.literals_eq, h.changed_eq]
    apply Registry.map_lookup_nextTokens
  · apply h.isTokenId

/-- The registry knows the tokens of a form that is kept. -/
theorem IsKept.contains (h : clause.IsKept registry form args) :
  ∀ token ∈ clause.literals form, registry.contains token = true
  := by
  intro token htoken
  obtain ⟨checked, -, -, hlookup⟩ := h.exists_checked
  have hmem := List.mem_map_of_mem (f := registry.lookup) htoken
  rw [hlookup] at hmem
  obtain ⟨value, -, hvalue⟩ := List.mem_map.mp hmem
  obtain ⟨k, hk, hentry⟩ := Registry.value?_eq_ok.mp (Registry.lookup_eq_some.mp hvalue.symm)
  apply Registry.contains_iff.mpr
  obtain ⟨hlt, -⟩ := List.getElem?_eq_some_iff.mp hentry
  use k, by simpa [Registry.size] using hlt

theorem givesBack_query {c : Condition} {absorbed : Absorbed Token} {query : Query}
    (h : (condition c).IsKept registry (Expression.query absorbed) (.query query)) :
  absorbed.GivesBack registry query
  := by
  obtain ⟨checked, hcheck, hshape, hlookup⟩ := h.exists_checked
  obtain ⟨body, hbody, rfl⟩ := (Expression.check_query_eq_ok c.function).mp hcheck
  obtain rfl : absorbed.body = body := Expression.body_eq_of_shape_eq hshape
  have hentries : absorbed.entries.map registry.lookup = query.values.map some := hlookup
  have htemplate := Absorbed.mapSlots_template_of_map_eq hentries
    fun position => Query.lt_of_mem_slots hbody
  use hentries, Absorbed.template ⟨absorbed.body, query.values⟩
  constructor
  · rw [Query.meaning, hbody]
    rfl
  use htemplate
  intro hsigil hregistry
  have htokens : ∀ token ∈ absorbed.entries, token = registry.tokenOf token.id := by
    intro token htoken
    obtain ⟨k, -, rfl⟩ := Registry.contains_iff.mp (h.contains token htoken)
    rfl
  have hlength : absorbed.entries.length = query.values.length := by
    rw [← List.length_map (f := registry.lookup), hentries, List.length_map]
  have hproper : ∀ token ∈ absorbed.entries,
      BoundSql.isTokenId token.id = true ∧ token.sigil = query.sigil := by
    intro token htoken
    use h.isTokenId token htoken
    rw [htokens token htoken, hregistry]
    rfl
  rw [(Absorbed.scan_text hsigil hbody hlength hproper).1, Template.mapSlots_mapSlots,
    ← htemplate]
  apply Template.mapSlots_congr
  intro token htoken
  rw [Numeral.value_ofId,
    ← htokens token (Absorbed.mem_entries_of_mem_slots htoken)]

/-- A form gives back the arguments that it keeps. -/
theorem IsKept.givesBack (h : clause.IsKept registry form args) :
  clause.GivesBack registry form args
  := by
  obtain ⟨checked, hcheck, hshape, hlookup⟩ := h.exists_checked
  have hplain : clause.HasNoQuery args →
      (clause.traverse registry.lookup form >>= clause.restore)
        = some (clause.normalise args) := by
    intro hquery
    have hfound : clause.traverse registry.lookup form = some checked :=
      clause.traversal_isLawful.traverse_eq_some hshape hlookup
    rw [hfound]
    apply clause.restore_of_check hcheck hquery
  cases clause with
  | condition c =>
    cases args with
    | text s =>
      cases form with
      | literal token => exact hplain trivial
      | query absorbed => exact hplain trivial
    | query query =>
      cases form with
      | literal token =>
        obtain ⟨body, -, rfl⟩ := (Expression.check_query_eq_ok c.function).mp hcheck
        contradiction
      | query absorbed => exact givesBack_query h
  | _ => exact hplain trivial

end Clause

/-! ### Getters -/

/-- A fragment is given to a registry that knows all its tokens. -/
theorem Fragment.get_eq_pure {clause : Clause} {arity : Arity} {fragment : Fragment clause arity}
    {registry : Registry}
    (h : ∀ form ∈ fragment.items, ∀ token ∈ clause.literals form,
      registry.contains token = true) :
  fragment.get registry = pure fragment
  := by
  have hverify : fragment.items.forM (verify clause registry) = pure () := by
    apply Traced.forM_eq_pure
    intro form hform
    have hfind : (clause.literals form).find? (fun token => !registry.contains token) = none := by
      rw [List.find?_eq_none]
      intro token htoken
      simpa using h form hform token htoken
    rw [verify, hfind]
  rw [get, hverify]
  rfl

/-- The call may change what a field holds. -/
def Call.Concerns {grammar : Grammar} (field : grammar.Field) : Call grammar → Prop
  | .set other _ => other = field
  | .reset => True
  | .get _ | .sql | .build | .values | .nextId => False

namespace Statement

variable {grammar : Grammar} {statement : Statement grammar} {journal : Journal grammar}
  {field : grammar.Field}

/-- The getter of a field gives what the field holds, and this gives back the arguments that
are in force. -/
theorem Agrees.get_eq (h : statement.Agrees Clause.IsKept journal) (field : grammar.Field) :
  statement.get field = pure (statement.fragment field)
    ∧ ((statement.fragment field).isSet = false ↔ journal field = [])
    ∧ List.Forall₂ ((grammar.clause field).GivesBack statement.registry)
      (statement.fragment field).items (journal field)
  := by
  have hfield := h field
  constructor
  · apply Fragment.get_eq_pure
    exact fun form hform => h.forall_items field (fun form args hkept => hkept.contains) form hform
  constructor
  · rw [Fragment.isSet, Bool.not_eq_false', List.isEmpty_iff, ← List.length_eq_zero_iff,
      ← List.length_eq_zero_iff, hfield.length_eq]
  · apply hfield.imp
    exact fun form args => Clause.IsKept.givesBack

theorem fragment_of_transition (journal : Journal grammar) {call : Call grammar}
    {result : Except Error (Reply grammar)} {changed : Statement grammar}
    (h : Transition statement call result changed)
    (hcall : (∃ e, result = .error e) ∨ ¬ call.Concerns field) :
  changed.fragment field = statement.fragment field
    ∧ journal.after call result field = journal field
  := by
  cases h with
  | bound other args checked form registry fragment hbound hitems =>
    obtain ⟨e, he⟩ | hother := hcall
    · contradiction
    · rw [fragment_put_of_ne fragment hother]
      use rfl
      apply Journal.put_of_ne journal _ hother
  | cleared other fragment hitems =>
    obtain ⟨e, he⟩ | hother := hcall
    · contradiction
    · rw [fragment_put_of_ne fragment hother]
      use rfl
      apply Journal.put_of_ne journal _ hother
  | refused other args e =>
    use rfl
    cases args with
    | none => rfl
    | some args => rfl
  | reset =>
    obtain ⟨e, he⟩ | hreset := hcall
    · contradiction
    · exact absurd trivial hreset
  | asked call result hquestion =>
    use rfl
    cases call with
    | set | reset => contradiction
    | _ => rfl

/-- Calls of which none that is accepted concerns a field leave what the field holds and what
is in force for it. -/
theorem fragment_run (statement : Statement grammar) (journal : Journal grammar)
    {calls : List (Call grammar)} (h : ∀ call ∈ statement.accepted calls, ¬ call.Concerns field) :
  (statement.run calls).1.fragment field = statement.fragment field
    ∧ journal.along statement calls field = journal field
  := by
  induction calls generalizing statement journal with
  | nil => exact ⟨rfl, rfl⟩
  | cons call calls ih =>
    rw [accepted, BoundSql.accepted] at h
    have hrest : ∀ other ∈ (statement.step call).1.accepted calls, ¬ other.Concerns field := by
      intro other hother
      apply h other
      dsimp only
      split_ifs
      · exact hother
      · exact List.mem_cons_of_mem call hother
    have hcall : (∃ e, (statement.step call).2.result = .error e) ∨ ¬ call.Concerns field := by
      cases hrefused : (statement.step call).2.isError with
      | true => exact Or.inl (Traced.isError_iff.mp hrefused)
      | false =>
        right
        apply h call
        dsimp only
        rw [hrefused]
        exact List.mem_cons_self
    obtain ⟨hfragment, hjournal⟩ := ih (statement.step call).1
      (journal.after call (statement.step call).2.result) hrest
    obtain ⟨hstep, hafter⟩ :=
      fragment_of_transition journal (transition_step statement call) hcall
    exact ⟨hfragment.trans hstep, hjournal.trans hafter⟩

/-- After any calls on a statement, its fields keep the arguments in force. -/
theorem agrees_isKept (config : Config) (calls : List (Call grammar)) :
  ((Statement.new grammar config).run calls).1.Agrees Clause.IsKept
    (Journal.empty.along (Statement.new grammar config) calls)
  := (agrees_empty Clause.IsKept _).run Clause.isKept_lasts
    fun field args _ => Clause.isKept_isMade (grammar.clause field) args

end Statement

/-- Fields give back their arguments.  After any calls on a statement, the getter of each
field gives what the field holds: nothing if no arguments are in force for it, and otherwise
forms that give back the arguments in force, in order.  It gives the same after all further
calls of which none that is accepted sets the field or resets the statement. -/
theorem fields_give_back_their_arguments (grammar : Grammar) (config : Config)
    (calls : List (Call grammar)) (field : grammar.Field) :
  let start := Statement.new grammar config
  let final := (start.run calls).1
  let inForce := Journal.empty.along start calls field
  ∃ fragment : Fragment (grammar.clause field) (grammar.arity field),
    final.get field = pure fragment
      ∧ (fragment.isSet = false ↔ inForce = [])
      ∧ List.Forall₂ ((grammar.clause field).GivesBack final.registry) fragment.items inForce
      ∧ ∀ more : List (Call grammar),
        (∀ call ∈ final.accepted more, ¬ call.Concerns field) →
        let later := (final.run more).1
        later.get field = pure fragment
          ∧ List.Forall₂ ((grammar.clause field).GivesBack later.registry) fragment.items
            inForce
  := by
  intro start final inForce
  have hkept : ∀ calls : List (Call grammar), ∀ field args, .set field (some args) ∈ calls →
      Clause.Relation.IsMade Clause.IsKept (grammar.clause field) args :=
    fun _ field args _ => Clause.isKept_isMade (grammar.clause field) args
  have hfinal : final.Agrees Clause.IsKept (Journal.empty.along start calls) :=
    (Statement.agrees_empty Clause.IsKept _).run Clause.isKept_lasts (hkept calls)
  obtain ⟨hget, hisSet, hgives⟩ := hfinal.get_eq field
  use final.fragment field, hget, hisSet, hgives
  intro more hmore later
  have hlater : later.Agrees Clause.IsKept _ := hfinal.run Clause.isKept_lasts (hkept more)
  obtain ⟨hfragment, hjournal⟩ := final.fragment_run (Journal.empty.along start calls) hmore
  obtain ⟨hget', -, hgives'⟩ := hlater.get_eq field
  rw [hfragment] at hget' hgives'
  rw [hjournal] at hgives'
  use hget', hgives'

end BoundSql
