import BoundSql.Proofs.Room
import BoundSql.Proofs.Splicing

/-!
# Which queries are absorbed

A registry absorbs a query when it has room for the values within its capacity, when the search
for tokens in the text of the query has an end and each token names one of the values, and when
there are numbers for as many tokens (`Registry.Admits`).  It absorbs these queries and no others: either the values of the query
become its further entries, or it is left as it was (`Registry.absorb_is_all_or_nothing`).
-/

namespace BoundSql

open Stateful

/-! ### Named values -/

namespace Query

variable {query : Query} {numeral : Numeral}

/-- A number names a value of a query when it is one of as many numbers as there are values,
from the first number on. -/
def Names (query : Query) (number : Nat) : Prop :=
  query.firstId.toNat ≤ number ∧ number < query.firstId.toNat + query.values.length

theorem names_iff {number : Nat} :
  query.Names number
    ↔ ∃ position < query.values.length, number = query.firstId.toNat + position
  := by
  constructor
  · rintro ⟨hfirst, hlast⟩
    use number - query.firstId.toNat
    omega
  · rintro ⟨position, hposition, rfl⟩
    exact ⟨Nat.le_add_right _ position, Nat.add_lt_add_left hposition _⟩

theorem exists_resolve_iff :
  (∃ position, query.resolve numeral = .ok position) ↔ query.Names numeral.value
  := by
  simp only [resolve_eq_ok, names_iff]

/-- The text of a query can be read when the search for its tokens has an end and all of them
name values. -/
theorem exists_references_iff :
  (∃ body, query.references = .ok body)
    ↔ query.sigil ≠ ""
      ∧ ∀ numeral ∈ (scan query.sigil query.sql).slots, query.Names numeral.value
  := by
  constructor
  · rintro ⟨body, hbody⟩
    use sigil_ne_empty hbody
    intro numeral hnumeral
    obtain ⟨position, -, hresolve⟩ := resolve_of_mem_slots hbody hnumeral
    apply exists_resolve_iff.mp
    use position
  · rintro ⟨hsigil, h⟩
    cases hreferences : query.references with
    | ok body => use body
    | error fault =>
      rw [references_of_ne hsigil] at hreferences
      obtain ⟨numeral, hnumeral, hfault⟩ := Template.of_traverse_eq_error hreferences
      obtain ⟨position, hposition⟩ := exists_resolve_iff.mpr (h numeral hnumeral)
      rw [hfault] at hposition
      contradiction

end Query

namespace Registry

variable {registry changed : Registry} {query : Query} {absorbed : Absorbed Token}

/-! ### Values that are issued -/

theorem id_of_getElem?_nextTokens {count k : Nat} {token : Token}
    (h : (registry.nextTokens count)[k]? = some token) :
  token.id = registry.firstId + registry.size + k
  := by
  rw [nextTokens, List.getElem?_map] at h
  obtain ⟨id, hid, rfl⟩ := Option.map_eq_some_iff.mp h
  obtain ⟨hk, hrange⟩ := List.getElem?_eq_some_iff.mp hid
  rw [List.getElem_range', Nat.one_mul] at hrange
  exact hrange.symm

/-- What it means to have issued tokens for values.  The values have become the further
entries, in order; the tokens have the next numbers, none of them has been there before, and
each stands for its value. -/
structure HasIssued (registry : Registry) (values : List Value) (tokens : List Token)
    (changed : Registry) : Prop where
  changed_eq : changed = registry.append (values.map some)
  length_eq : tokens.length = values.length
  id_eq : ∀ (k : Nat) token, tokens[k]? = some token →
    token.id = registry.firstId + registry.size + k
  contains_eq : ∀ token ∈ tokens, registry.contains token = false
  value?_eq : ∀ (k : Nat) token, tokens[k]? = some token → changed.value? token = .ok values[k]?

theorem hasIssued_nextTokens (registry : Registry) (values : List Value) :
  registry.HasIssued values (registry.nextTokens values.length)
    (registry.append (values.map some))
  := by
  constructor
  · rfl
  · exact length_nextTokens registry values.length
  · exact fun k token htoken => id_of_getElem?_nextTokens htoken
  · intro token htoken
    rw [← List.length_map (f := some)] at htoken
    exact (registry.issues_append (values.map some)).not_contains_of_mem htoken
  · exact fun k token htoken => value?_nextTokens_map htoken

/-! ### Queries that are absorbed -/

/-- What it takes to absorb a query: room for its values, a sigil that can be searched for, a
value for each token in its text, and a number for the token of its last value. -/
structure Admits (registry : Registry) (query : Query) : Prop where
  size_le : registry.size + query.values.length ≤ registry.capacity
  sigil_ne : query.sigil ≠ ""
  names : ∀ numeral ∈ (scan query.sigil query.sql).slots, query.Names numeral.value
  lt_size : query.values.length = 0
    ∨ registry.firstId + registry.size + query.values.length - 1 < UInt32.size

/-- What it means to have absorbed a query.  The values have become the further entries, in
order, each with a token that has not been there before; the tokens have the next numbers.
The text is that of the query with the names of these tokens spliced in. -/
structure HasAbsorbed (registry : Registry) (query : Query) (absorbed : Absorbed Token)
    (changed : Registry) : Prop where
  changed_eq : changed = registry.append (query.values.map some)
  length_eq : absorbed.entries.length = query.values.length
  contains_eq : ∀ token ∈ absorbed.entries, registry.contains token = false
  id_eq : ∀ (k : Nat) token, absorbed.entries[k]? = some token →
    registry.nextId.map (· + k) = .ok token.id
  value?_eq : ∀ (k : Nat) token, absorbed.entries[k]? = some token →
    changed.value? token = .ok query.values[k]?
  spliced?_eq : absorbed.spliced? query = some (absorbed.template.text Token.name)

/-- When further tokens have been issued, the last of them has a number that fits. -/
theorem lt_size_of_isTokenId {count : Nat}
    (h : ∀ token ∈ registry.nextTokens count, isTokenId token.id = true) :
  count = 0 ∨ registry.firstId + registry.size + count - 1 < UInt32.size
  := by
  cases count with
  | zero => exact Or.inl rfl
  | succ last =>
    right
    have hlast : registry.tokenOf (registry.firstId + (registry.size + last))
        ∈ registry.nextTokens (last + 1) :=
      mem_nextTokens.mpr ⟨last, Nat.lt_succ_self last, rfl⟩
    have hid : registry.firstId + (registry.size + last) < UInt32.size :=
      of_decide_eq_true (h _ hlast)
    omega

theorem admits_of_succeeds_absorb (h : Succeeds (absorb query) registry absorbed changed) :
  registry.Admits query
  := by
  obtain ⟨hsize, hbody, hentries⟩ := succeeds_absorb.mp h
  obtain ⟨-, htokens, hids⟩ := of_succeeds_allocate hentries
  rw [htokens] at hids
  constructor
  · apply hsize
  · exact Query.sigil_ne_empty hbody
  · exact (Query.exists_references_iff.mp ⟨absorbed.body, hbody⟩).2
  · exact lt_size_of_isTokenId hids

/-- None of the reasons to refuse a query applies to one that meets the conditions. -/
theorem Admits.not_declines (h : registry.Admits query) (fault : AllocationFault) :
  ¬ registry.Declines query fault
  := by
  intro hdeclines
  cases hdeclines with
  | tooLarge hlarge => exact absurd h.size_le (Nat.not_le_of_lt hlarge)
  | endless hempty => exact absurd hempty h.sigil_ne
  | dangling hdangling =>
    obtain ⟨body, hbody⟩ := Query.exists_references_iff.mpr ⟨h.sigil_ne, h.names⟩
    rw [hdangling] at hbody
    contradiction
  | exhausted hvalues hexhausted =>
    obtain hnone | hlast := h.lt_size
    · exact hvalues (List.length_eq_zero_iff.mp hnone)
    · omega

theorem hasAbsorbed_of_succeeds_absorb
    (h : Succeeds (absorb query) registry absorbed changed) :
  registry.HasAbsorbed query absorbed changed
  := by
  obtain ⟨hbody, hentries, hchanged, hids⟩ := of_succeeds_absorb h
  have hissued := registry.hasIssued_nextTokens query.values
  rw [← hentries, ← hchanged] at hissued
  constructor
  · exact hissued.changed_eq
  · exact hissued.length_eq
  · exact hissued.contains_eq
  · intro k token htoken
    have hid := hids token (List.mem_of_getElem? htoken)
    rw [hissued.id_eq k token htoken] at hid ⊢
    have hfirst : isTokenId (registry.firstId + registry.size) = true := by
      have hlast := of_decide_eq_true hid
      apply decide_eq_true
      omega
    rw [nextId, if_pos hfirst]
    rfl
  · exact hissued.value?_eq
  · exact Absorbed.spliced?_eq hbody hissued.length_eq

/-- A query is absorbed or refused as a whole.  It is absorbed exactly if the conditions are
met; then its values are the further entries of the registry.  Otherwise the registry is what
it was, and the error says which condition is not met. -/
theorem absorb_is_all_or_nothing (registry : Registry) (query : Query) :
  let outcome := absorb query registry
  (outcome.2.result.isOk = true ↔ registry.Admits query)
    ∧ (∀ absorbed, outcome.2.result = .ok absorbed →
        registry.HasAbsorbed query absorbed outcome.1)
    ∧ ∀ e, outcome.2.result = .error e →
        outcome.1 = registry ∧ ∃ fault, e = .allocation fault ∧ registry.Declines query fault
  := by
  intro outcome
  constructor
  · constructor
    · intro hok
      obtain ⟨absorbed, habsorbed⟩ := Except.exists_eq_ok hok
      exact admits_of_succeeds_absorb ⟨rfl, habsorbed⟩
    · intro hadmits
      obtain ⟨absorbed, hsucceeds⟩ | ⟨e, hfails⟩ := succeeds_or_fails (absorb query) registry
      · rw [hsucceeds.2]
        rfl
      · obtain ⟨fault, -, hdeclines⟩ := declines_of_fails_absorb hfails
        exact absurd hdeclines (hadmits.not_declines fault)
  constructor
  · intro absorbed habsorbed
    exact hasAbsorbed_of_succeeds_absorb ⟨rfl, habsorbed⟩
  · intro e he
    have hfails : Fails (absorb query) registry e outcome.1 := ⟨rfl, he⟩
    exact ⟨of_fails_absorb hfails, declines_of_fails_absorb hfails⟩

end Registry

end BoundSql
