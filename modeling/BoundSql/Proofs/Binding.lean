import BoundSql.Fragment
import BoundSql.Proofs.Absorption
import BoundSql.Proofs.Checking

/-!
# Binding arguments

Binding the arguments of a clause appends the values of the checked form to the registry
and puts the next tokens into their places.  Setting a fragment either does this and keeps
the form, or fails and leaves the registry as it was.
-/

namespace BoundSql

open Stateful

/-- A query with the sigil `$` is legible wherever its entries are written as numerals with
the number of a token. -/
theorem Expression.isLegible_query {α : Type} {numeral : α → Numeral} {q : Query}
    {absorbed : Absorbed α} (hsigil : q.sigil = "$")
    (hbody : q.references = .ok absorbed.body)
    (hlength : absorbed.entries.length = q.values.length)
    (hproper : ∀ a ∈ absorbed.entries, (numeral a).IsProper) :
  (Expression.query absorbed).template.IsLegible numeral
  := by
  obtain ⟨exchange, htemplate, hexchange⟩ :=
    Absorbed.mapSlots_template hbody hlength numeral
  have hscan : scan q.sigil q.sql = Scan.scanFrom '$' [] none q.sql.toList := by
    rw [hsigil]
    apply scan_eq_scanFrom
    decide
  rw [hscan] at htemplate hexchange
  show Scan.Legible '$' [] (absorbed.template.mapSlots numeral)
  rw [htemplate]
  apply Scan.Legible.mapSlots_scanFrom
  intro n hn
  obtain ⟨position, a, -, ha, hexchange⟩ := hexchange n hn
  rw [hexchange]
  apply hproper
  apply List.mem_of_getElem? ha

/-! ### Binding a form -/

namespace Clause

/-- The outcome of binding arguments: the form with the next tokens for the literals of the
checked form, whose values have been appended to the registry. -/
structure IsBound (clause : Clause) (args : clause.Args) (registry : Registry)
    (checked : clause.Form Value) (form : clause.Form Token) (changed : Registry) : Prop where
  check_eq : clause.check args = .ok checked
  shape_eq : clause.traversal.shape form = clause.traversal.shape checked
  literals_eq : clause.literals form = registry.nextTokens (clause.literals checked).length
  changed_eq : changed = registry.append ((clause.literals checked).map some)
  isTokenId : ∀ token ∈ clause.literals form, BoundSql.isTokenId token.id = true

theorem isBound_of_check {clause : Clause} {args : clause.Args} {registry changed : Registry}
    {form : clause.Form Token}
    (h : Succeeds (do
      let checked ← Stateful.lift (Traced.ofExcept (clause.check args))
      clause.traverse Registry.allocate checked) registry form changed) :
  ∃ checked, clause.IsBound args registry checked form changed
  := by
  obtain ⟨checked, _, hlift, hvisit⟩ := succeeds_bind.mp h
  obtain ⟨rfl, hcheck⟩ := succeeds_lift.mp hlift
  obtain ⟨hliterals, hshape⟩ := clause.traversal_isLawful.of_succeeds_traverse hvisit
  obtain ⟨hchanged, htokens, hids⟩ := Registry.of_succeeds_allocate hliterals
  use checked, hcheck, hshape, htokens, hchanged, hids

theorem isBound_of_absorb {c : Condition} {q : Query} {registry changed : Registry}
    {form : (condition c).Form Token}
    (h : Succeeds (do
      let absorbed ← Registry.absorb q
      pure (Expression.query absorbed)) registry form changed) :
  ∃ checked, (condition c).IsBound (.query q) registry checked form changed
  := by
  obtain ⟨absorbed, _, habsorb, hpure⟩ := succeeds_bind.mp h
  obtain ⟨rfl, rfl⟩ := succeeds_pure.mp hpure
  obtain ⟨hbody, hentries, hchanged, hids⟩ := Registry.of_succeeds_absorb habsorb
  use Expression.query ⟨absorbed.body, q.values⟩
  constructor
  · apply (Expression.check_query_eq_ok c.function).mpr
    use absorbed.body, hbody
  · apply Expression.shape_query
    rw [hentries, Registry.length_nextTokens]
  · apply hentries
  · apply hchanged
  · apply hids

theorem of_succeeds_bind (clause : Clause) {args : clause.Args} {registry changed : Registry}
    {form : clause.Form Token} (h : Succeeds (clause.bind args) registry form changed) :
  ∃ checked, clause.IsBound args registry checked form changed
  := by
  unfold bind at h
  split at h
  · apply isBound_of_absorb h
  · apply isBound_of_check h

/-- A query among the arguments marks its tokens with the given sigil. -/
def UsesSigil (sigil : String) : (clause : Clause) → clause.Args → Prop
  | .condition _, .query q => q.sigil = sigil
  | _, _ => True

/-- A form is readable when it has been bound with queries whose sigil is `$`. -/
theorem IsBound.isReadable {clause : Clause} {args : clause.Args}
    {registry changed : Registry} {checked : clause.Form Value} {form : clause.Form Token}
    (h : clause.IsBound args registry checked form changed)
    (hsigil : clause.UsesSigil "$" args) :
  clause.IsReadable (fun token => Numeral.ofId token.id) form
  := by
  have hproper : ∀ token ∈ clause.literals form, (Numeral.ofId token.id).IsProper :=
    fun token htoken => Numeral.isProper_ofId (h.isTokenId token htoken)
  cases clause with
  | condition c =>
    cases form with
    | literal token =>
      apply Template.IsLegibleWith.ref
      apply hproper token (List.mem_singleton_self token)
    | query absorbed =>
      cases args with
      | text s =>
        obtain ⟨-, hchecked⟩ := Expression.check_text_eq_ok.mp h.check_eq
        have hshape := h.shape_eq
        rw [hchecked] at hshape
        cases hshape
      | query q =>
        obtain ⟨body, hbody, rfl⟩ := (Expression.check_query_eq_ok c.function).mp h.check_eq
        have hquery : absorbed.body = body := Expression.body_eq_of_shape_eq h.shape_eq
        have hentries : absorbed.entries = registry.nextTokens q.values.length :=
          h.literals_eq
        rw [← hquery] at hbody
        apply Expression.isLegible_query hsigil hbody _ hproper
        rw [hentries, Registry.length_nextTokens]
  | _ => exact hproper

/-! ### Growing -/

theorem grows_bind (clause : Clause) (args : clause.Args) :
  Registry.Grows (clause.bind args)
  := by
  unfold bind
  split
  · apply Registry.Grows.bind (Registry.Grows.absorb _)
    exact fun absorbed => Registry.Grows.pure _
  · apply Registry.Grows.bind (Registry.Grows.lift _)
    intro checked
    apply Registry.Grows.traverse (traversal_isLawful _)
    exact fun value => Registry.Grows.issue (some value)

end Clause

/-! ### Setting a fragment -/

/-- The items after another one has been accepted: only the new one where at most one is
kept, and all of them otherwise. -/
def Arity.keep {α : Type} : Arity → List α → α → List α
  | .one, _, a => [a]
  | .many, items, a => items ++ [a]

namespace Fragment

variable {clause : Clause} {arity : Arity} {fragment changed : Fragment clause arity}
  {registry after : Registry}

theorem items_empty :
  (empty clause arity).items = []
  := by
  cases arity <;> rfl

theorem grows_add (fragment : Fragment clause arity) (args : clause.Args) :
  Registry.Grows (fragment.add args)
  := by
  cases arity with
  | one =>
    apply Registry.Grows.bind (clause.grows_bind args)
    exact fun form => Registry.Grows.pure _
  | many =>
    apply Registry.Grows.bind (clause.grows_bind args)
    intro form
    apply Registry.Grows.bind (Registry.Grows.lift _)
    exact fun _ => Registry.Grows.pure _

theorem grows_set (fragment : Fragment clause arity) (args : Option clause.Args) :
  Registry.Grows (fragment.set args)
  := by
  cases args with
  | none => exact Registry.Grows.lift _
  | some args => exact (Registry.Grows.atomic (fragment.grows_add args)).noteError _

theorem of_succeeds_add {args : clause.Args}
    (h : Succeeds (fragment.add args) registry changed after) :
  ∃ form, Succeeds (clause.bind args) registry form after
    ∧ changed.items = arity.keep fragment.items form
  := by
  cases arity with
  | one =>
    obtain ⟨form, _, hbind, hpure⟩ := succeeds_bind.mp h
    obtain ⟨rfl, rfl⟩ := succeeds_pure.mp hpure
    use form, hbind
    rfl
  | many =>
    obtain ⟨form, _, hbind, hrest⟩ := succeeds_bind.mp h
    obtain ⟨_, _, hlift, hpure⟩ := succeeds_bind.mp hrest
    obtain ⟨rfl, -⟩ := succeeds_lift.mp hlift
    obtain ⟨rfl, rfl⟩ := succeeds_pure.mp hpure
    use form, hbind
    rfl

theorem items_of_clear (h : fragment.clear.result = .ok changed) :
  changed.items = []
  := by
  rw [clear] at h
  split_ifs at h with hset
  · obtain rfl := Except.ok.inj h
    apply items_empty
  · obtain rfl := Except.ok.inj h
    simpa [isSet] using hset

/-- Clearing a fragment always succeeds. -/
theorem exists_clear (fragment : Fragment clause arity) :
  ∃ events cleared, fragment.clear = ⟨events, .ok cleared⟩ ∧ cleared.items = []
  := by
  rcases hclear : fragment.clear with ⟨events, e | cleared⟩
  · rw [clear] at hclear
    split_ifs at hclear
    · cases hclear
    · cases hclear
  · use events, cleared, rfl
    apply items_of_clear
    rw [hclear]

/-- Clearing a fragment leaves the registry. -/
theorem of_succeeds_set_none (h : Succeeds (fragment.set none) registry changed after) :
  after = registry ∧ changed.items = []
  := by
  obtain ⟨rfl, hclear⟩ := succeeds_lift.mp h
  use rfl
  apply items_of_clear hclear

/-- Setting a fragment binds a form and keeps it. -/
theorem of_succeeds_set_some {args : clause.Args}
    (h : Succeeds (fragment.set (some args)) registry changed after) :
  ∃ checked form, clause.IsBound args registry checked form after
    ∧ changed.items = arity.keep fragment.items form
  := by
  obtain ⟨form, hbind, hitems⟩ :=
    of_succeeds_add (Registry.succeeds_atomic.mp (succeeds_noteError.mp h))
  obtain ⟨checked, hbound⟩ := clause.of_succeeds_bind hbind
  use checked, form, hbound

/-- A refused `set` leaves the registry. -/
theorem of_fails_set {args : Option clause.Args} {e : Error}
    (h : Fails (fragment.set args) registry e after) :
  after = registry
  := by
  cases args with
  | none => exact (fails_lift.mp h).1.symm
  | some args =>
    apply Registry.of_fails_atomic (fragment.grows_add args) (fails_noteError.mp h)

end Fragment

end BoundSql
