import BoundSql.Proofs.Allocation
import BoundSql.Proofs.Reading

/-!
# Absorbed queries

`Registry.absorb` keeps the meaning of a query: the text of the absorbed query, read again,
has the same characters between its tokens, and its tokens stand for the values that the
tokens of the query have referred to.  Only the numbers of the tokens are others.
-/

namespace BoundSql

open Stateful

/-! ### References -/

namespace Query

/-- A token refers to the value at the position by which its number exceeds the first. -/
theorem resolve_eq_ok {query : Query} {numeral : Numeral} {position : Nat} :
  query.resolve numeral = .ok position
    ↔ position < query.values.length ∧ numeral.value = query.firstId.toNat + position
  := by
  rw [resolve, position?]
  split
  next found hfound =>
    rw [Option.ite_none_right_eq_some] at hfound
    obtain ⟨hrange, hposition⟩ := hfound
    have hsub := Option.some.inj hposition
    rw [Except.ok.injEq]
    omega
  next hnone =>
    rw [ite_eq_right_iff] at hnone
    constructor
    · intro h
      contradiction
    · rintro ⟨hposition, hvalue⟩
      have hrange := hnone ⟨by omega, by omega⟩
      contradiction

theorem references_of_ne {query : Query} (h : query.sigil ≠ "") :
  query.references = (scan query.sigil query.sql).traverse query.resolve
  := by
  rw [references, scan?_eq_some.mpr ⟨h, rfl⟩]

/-- For an empty sigil there are no references, as the search for them has no end. -/
theorem references_of_eq_empty {query : Query} (h : query.sigil = "") :
  query.references = .error .endlessSearch
  := by
  rw [references, scan?_eq_none.mpr h]

/-- The search for the tokens of the text has an end, and every token is a reference to one of
the values. -/
theorem references_eq_ok {query : Query} {body : Template Nat} :
  query.references = .ok body
    ↔ query.sigil ≠ ""
      ∧ (scan query.sigil query.sql).mapSlots query.resolve = body.mapSlots .ok
  := by
  by_cases h : query.sigil = ""
  · simp [references_of_eq_empty h, h]
  · rw [references_of_ne h, Template.traverse_eq_ok, and_iff_right h]

theorem sigil_ne_empty {query : Query} {body : Template Nat} (h : query.references = .ok body) :
  query.sigil ≠ ""
  := (references_eq_ok.mp h).1

/-- The positions in the body are those that the tokens refer to. -/
theorem mem_slots_iff {query : Query} {body : Template Nat}
    (h : query.references = .ok body) {position : Nat} :
  position ∈ body.slots
    ↔ ∃ numeral ∈ (scan query.sigil query.sql).slots, query.resolve numeral = .ok position
  := by
  have hslots := congrArg Template.slots (references_eq_ok.mp h).2
  rw [Template.slots_mapSlots, Template.slots_mapSlots] at hslots
  rw [← List.mem_map, hslots, List.mem_map]
  simp

theorem resolve_of_mem_slots {query : Query} {body : Template Nat}
    (h : query.references = .ok body) {numeral : Numeral}
    (hnumeral : numeral ∈ (scan query.sigil query.sql).slots) :
  ∃ position ∈ body.slots, query.resolve numeral = .ok position
  := by
  have hslots := congrArg Template.slots (references_eq_ok.mp h).2
  rw [Template.slots_mapSlots, Template.slots_mapSlots] at hslots
  have hmem := List.mem_map_of_mem (f := query.resolve) hnumeral
  rw [hslots] at hmem
  obtain ⟨position, hposition, heq⟩ := List.mem_map.mp hmem
  use position, hposition, heq.symm

theorem lt_of_mem_slots {query : Query} {body : Template Nat}
    (h : query.references = .ok body) {position : Nat} (hposition : position ∈ body.slots) :
  position < query.values.length
  := by
  obtain ⟨numeral, -, hresolve⟩ := (mem_slots_iff h).mp hposition
  exact (resolve_eq_ok.mp hresolve).1

end Query

/-! ### The text of an absorbed query -/

namespace Absorbed

variable {α β : Type}

/-- Where every position has an entry, each slot of the body becomes a slot of the
template. -/
theorem mapSlots_template_of_lt (absorbed : Absorbed α)
    (h : ∀ position ∈ absorbed.body.slots, position < absorbed.entries.length)
    (f : α → Option β) :
  absorbed.template.mapSlots f
    = absorbed.body.mapSlots fun position => absorbed.entries[position]?.bind f
  := by
  obtain ⟨body, entries⟩ := absorbed
  show (Template.expand (slotAt entries) body).mapSlots f = _
  simp only at h
  induction body with
  | nil => rfl
  | cons symbol body ih =>
    cases symbol with
    | char c => exact congrArg (Symbol.char c :: ·) (ih h)
    | slot position =>
      rw [Template.slots_slot, List.forall_mem_cons] at h
      have hentry := List.getElem?_eq_getElem h.1
      show (slotAt entries position ++ Template.expand (slotAt entries) body).mapSlots f = _
      rw [slotAt, hentry, Template.mapSlots_append, ih h.2, Template.mapSlots_ref,
        Template.mapSlots_slot, hentry]
      rfl

theorem mem_of_mem_slots_expand {body : Template Nat} {entries : List α} {a : α}
    (h : a ∈ (body.expand (slotAt entries)).slots) :
  a ∈ entries
  := by
  induction body with
  | nil => contradiction
  | cons symbol body ih =>
    cases symbol with
    | char c => exact ih h
    | slot position =>
      have happend : a ∈ (slotAt entries position
          ++ Template.expand (slotAt entries) body).slots := h
      rw [Template.slots_append, List.mem_append] at happend
      rcases happend with hslot | hbody
      · rw [slotAt] at hslot
        split at hslot
        next b hb =>
          rw [Template.slots_ref, List.mem_singleton] at hslot
          rw [hslot]
          apply List.mem_of_getElem? hb
        next => contradiction
      · apply ih hbody

/-- Only entries stand in the text. -/
theorem mem_entries_of_mem_slots {absorbed : Absorbed α} {a : α}
    (h : a ∈ absorbed.template.slots) :
  a ∈ absorbed.entries
  := mem_of_mem_slots_expand h

/-- The template of an absorbed query is the text of the query with other slots. -/
theorem mapSlots_template [Inhabited β] {query : Query} {body : Template Nat}
    (hbody : query.references = .ok body) {entries : List α}
    (hlength : entries.length = query.values.length) (f : α → β) :
  ∃ exchange : Numeral → β,
    (Absorbed.template ⟨body, entries⟩).mapSlots f
        = (scan query.sigil query.sql).mapSlots exchange
      ∧ ∀ numeral ∈ (scan query.sigil query.sql).slots,
          ∃ position a, query.resolve numeral = .ok position
            ∧ entries[position]? = some a ∧ exchange numeral = f a
  := by
  have hpositions : ∀ position ∈ body.slots, position < entries.length := by
    intro position hposition
    rw [hlength]
    apply Query.lt_of_mem_slots hbody hposition
  let entry (result : Except AllocationFault Nat) : Option α :=
    result.toOption.bind fun position => entries[position]?
  use fun numeral => ((entry (query.resolve numeral)).map f).getD default
  constructor
  · have hsome := mapSlots_template_of_lt ⟨body, entries⟩ hpositions some
    simp only [Option.bind_fun_some] at hsome
    calc (Absorbed.template ⟨body, entries⟩).mapSlots f
        = ((Absorbed.template ⟨body, entries⟩).mapSlots some).mapSlots
            fun a => (a.map f).getD default := by
          rw [Template.mapSlots_mapSlots]
          rfl
      _ = (body.mapSlots .ok).mapSlots fun result => ((entry result).map f).getD default := by
          rw [hsome, Template.mapSlots_mapSlots, Template.mapSlots_mapSlots]
          rfl
      _ = _ := by
          rw [← (Query.references_eq_ok.mp hbody).2, Template.mapSlots_mapSlots]
  · intro numeral hnumeral
    obtain ⟨position, hposition, hresolve⟩ := Query.resolve_of_mem_slots hbody hnumeral
    have hlt := hpositions position hposition
    have hentry := List.getElem?_eq_getElem hlt
    use position, entries[position], hresolve, hentry
    simp [entry, hresolve, Except.toOption, hentry]

/-- Where the entries are found to be values, the template is found to be the one of the
values. -/
theorem mapSlots_template_of_map_eq {body : Template Nat} {entries : List α}
    {values : List β} {f : α → Option β} (h : entries.map f = values.map some)
    (hpositions : ∀ position ∈ body.slots, position < values.length) :
  (Absorbed.template ⟨body, entries⟩).mapSlots f
    = (Absorbed.template ⟨body, values⟩).mapSlots some
  := by
  have hlength : entries.length = values.length := by
    rw [← List.length_map (f := f), h, List.length_map]
  rw [mapSlots_template_of_lt ⟨body, entries⟩ (by rwa [hlength]),
    mapSlots_template_of_lt ⟨body, values⟩ hpositions]
  apply Template.mapSlots_congr
  intro position hposition
  have hfound := congrArg (fun found => found[position]?) h
  simp only [List.getElem?_map] at hfound
  rw [Option.bind_fun_some]
  have hlt := hpositions position hposition
  rw [List.getElem?_eq_getElem hlt] at hfound ⊢
  rw [← hlength] at hlt
  rw [List.getElem?_eq_getElem hlt] at hfound ⊢
  exact Option.some.inj hfound

/-- Where the entries are tokens with the sigil of the query, its text is read as the text of
the query with other numerals. -/
theorem scan_text {query : Query} {absorbed : Absorbed Token} (hsigil : query.sigil ≠ "")
    (hbody : query.references = .ok absorbed.body)
    (hlength : absorbed.entries.length = query.values.length)
    (htokens : ∀ token ∈ absorbed.entries,
      isTokenId token.id = true ∧ token.sigil = query.sigil) :
  scan query.sigil (absorbed.template.text Token.name)
      = absorbed.template.mapSlots (fun token => Numeral.ofId token.id)
    ∧ ∃ exchange : Numeral → Numeral,
        absorbed.template.mapSlots (fun token => Numeral.ofId token.id)
          = (scan query.sigil query.sql).mapSlots exchange
  := by
  have hsigils : ∀ token ∈ absorbed.template.slots, token.sigil = query.sigil :=
    fun token htoken => (htokens token (mem_entries_of_mem_slots htoken)).2
  obtain ⟨exchange, htemplate, hexchange⟩ := mapSlots_template hbody hlength
    fun token => Numeral.ofId token.id
  obtain ⟨s, rest, hs⟩ := List.exists_cons_of_ne_nil
    (mt String.toList_eq_nil_iff.mp hsigil)
  rw [scan_eq_scanFrom hs] at htemplate hexchange
  have hproper : ∀ n ∈ (Scan.scanFrom s rest none query.sql.toList).slots,
      (exchange n).IsProper := by
    intro n hn
    obtain ⟨position, token, -, htoken, hn⟩ := hexchange n hn
    rw [hn]
    apply Numeral.isProper_ofId
    apply (htokens token (List.mem_of_getElem? htoken)).1
  constructor
  · rw [scan_eq_scanFrom hs, Template.toList_text_name hsigils, hs, htemplate,
      Scan.scanFrom_written_mapSlots exchange none _ hproper]
  · use exchange
    rw [scan_eq_scanFrom hs, htemplate]

end Absorbed

/-! ### Absorbing -/

namespace Registry

@[simp]
theorem fst_makeRoom (query : Query) (registry : Registry) :
  (makeRoom query registry).1 = registry
  := by
  rw [makeRoom]
  split
  · rfl
  · rfl

theorem Grows.makeRoom (query : Query) :
  Grows (makeRoom query)
  := by
  intro registry
  use []
  simp

theorem Grows.traverse_absorbed (absorbed : Absorbed Value) :
  Grows (absorbed.traverse allocate)
  := by
  apply Grows.bind
  · apply Grows.mapM fun value => Grows.issue (some value)
  · exact fun entries => Grows.pure _

theorem Grows.absorb (query : Query) :
  Grows (absorb query)
  := by
  apply Grows.bind (Grows.makeRoom query)
  intro _
  apply Grows.bind (Grows.lift _)
  intro body
  apply Grows.bind (Grows.traverse_absorbed _).atomic
  intro absorbed
  apply Grows.bind (Grows.lift _)
  intro _
  apply Grows.pure

theorem succeeds_makeRoom {query : Query} {registry changed : Registry} {u : Unit} :
  Succeeds (makeRoom query) registry u changed
    ↔ registry = changed ∧ registry.size + query.values.length ≤ registry.capacity
  := by
  rw [Succeeds, fst_makeRoom, makeRoom]
  split
  next hlarge =>
    have hnot := Nat.not_le_of_lt hlarge
    simp [Traced.fail, hnot]
  next hfits => simp [Nat.le_of_not_lt hfits]

/-- What it takes to absorb a query: room within the capacity, a value for each of its tokens,
and tokens for its values. -/
theorem succeeds_absorb {query : Query} {registry changed : Registry}
    {absorbed : Absorbed Token} :
  Succeeds (absorb query) registry absorbed changed
    ↔ registry.size + query.values.length ≤ registry.capacity
      ∧ query.references = .ok absorbed.body
      ∧ Succeeds (query.values.mapM allocate) registry absorbed.entries changed
  := by
  constructor
  · intro h
    obtain ⟨_, _, hroom, hread⟩ := succeeds_bind.mp h
    obtain ⟨rfl, hcapacity⟩ := succeeds_makeRoom.mp hroom
    obtain ⟨body, _, hlift, hvisit⟩ := succeeds_bind.mp hread
    obtain ⟨rfl, hbody⟩ := succeeds_lift.mp hlift
    obtain ⟨_, _, hatomic, hreport⟩ := succeeds_bind.mp hvisit
    obtain ⟨_, _, hnote, hdone⟩ := succeeds_bind.mp hreport
    obtain ⟨rfl, -⟩ := succeeds_lift.mp hnote
    obtain ⟨rfl, rfl⟩ := succeeds_pure.mp hdone
    obtain ⟨entries, _, hentries, hresult⟩ := succeeds_bind.mp (succeeds_atomic.mp hatomic)
    obtain ⟨rfl, rfl⟩ := succeeds_pure.mp hresult
    exact ⟨hcapacity, Except.mapError_eq_ok.mp hbody, hentries⟩
  · rintro ⟨hcapacity, hbody, hentries⟩
    have hvisit : Succeeds (atomic (Absorbed.traverse allocate ⟨absorbed.body, query.values⟩))
        registry absorbed changed := by
      apply succeeds_atomic.mpr
      apply succeeds_bind.mpr
      exact ⟨_, _, hentries, succeeds_pure.mpr ⟨rfl, rfl⟩⟩
    have hread : Succeeds
        (Stateful.lift (Traced.ofExcept (query.references.mapError .allocation)))
        registry absorbed.body registry :=
      succeeds_lift.mpr ⟨rfl, Except.mapError_eq_ok.mpr hbody⟩
    refine succeeds_bind.mpr ⟨(), _, succeeds_makeRoom.mpr ⟨rfl, hcapacity⟩, ?_⟩
    refine succeeds_bind.mpr ⟨_, _, hread, ?_⟩
    refine succeeds_bind.mpr ⟨_, _, hvisit, ?_⟩
    exact succeeds_bind.mpr
      ⟨(), _, succeeds_lift.mpr ⟨rfl, rfl⟩, succeeds_pure.mpr ⟨rfl, rfl⟩⟩

/-- An absorbed query gets the next tokens for its values. -/
theorem of_succeeds_absorb {query : Query} {registry changed : Registry}
    {absorbed : Absorbed Token} (h : Succeeds (absorb query) registry absorbed changed) :
  query.references = .ok absorbed.body
    ∧ absorbed.entries = registry.nextTokens query.values.length
    ∧ changed = registry.append (query.values.map some)
    ∧ ∀ token ∈ absorbed.entries, isTokenId token.id = true
  := by
  obtain ⟨-, hbody, hentries⟩ := succeeds_absorb.mp h
  obtain ⟨hchanged, htokens, hids⟩ := of_succeeds_allocate hentries
  use hbody, htokens, hchanged, hids

/-- A query that is refused leaves the registry. -/
theorem of_fails_absorb {query : Query} {registry changed : Registry} {e : Error}
    (h : Fails (absorb query) registry e changed) :
  changed = registry
  := by
  obtain hroom | ⟨_, _, hroom, hread⟩ := fails_bind.mp h
  · rw [← hroom.1, fst_makeRoom]
  obtain rfl := hroom.1.symm.trans (fst_makeRoom query registry)
  obtain hlift | ⟨body, _, hlift, hvisit⟩ := fails_bind.mp hread
  · exact (fails_lift.mp hlift).1.symm
  obtain ⟨rfl, -⟩ := succeeds_lift.mp hlift
  obtain hatomic | ⟨_, _, -, hreport⟩ := fails_bind.mp hvisit
  · apply of_fails_atomic (Grows.traverse_absorbed _) hatomic
  · obtain hnote | ⟨_, _, -, hdone⟩ := fails_bind.mp hreport
    · cases hnote.2
    · cases not_fails_pure hdone

/-- The text of an absorbed query is read as the text of the query with other numerals. -/
theorem scan_text_absorbed {registry changed : Registry} {query : Query}
    {absorbed : Absorbed Token} (hsigil : registry.config.sigil ≠ "")
    (hquery : query.sigil = registry.config.sigil)
    (h : Succeeds (absorb query) registry absorbed changed) :
  scan registry.config.sigil (absorbed.template.text Token.name)
      = absorbed.template.mapSlots (fun token => Numeral.ofId token.id)
    ∧ ∃ exchange : Numeral → Numeral,
        absorbed.template.mapSlots (fun token => Numeral.ofId token.id)
          = (scan query.sigil query.sql).mapSlots exchange
  := by
  obtain ⟨hbody, hentries, -, hids⟩ := of_succeeds_absorb h
  rw [← hquery] at hsigil ⊢
  apply Absorbed.scan_text hsigil hbody
  · rw [hentries, length_nextTokens]
  · intro token htoken
    use hids token htoken
    rw [hentries] at htoken
    rw [eq_tokenOf_of_mem_nextTokens htoken, hquery]
    rfl

/-- Absorbing a query keeps its meaning.  Read again, the absorbed text has the same
characters around as many tokens as the text of the query; each of its tokens has the
number that was issued for the value that the token of the query refers to, and the
registry knows that value by it.  So the text has the same mixture of characters and
values as before. -/
theorem absorb_preserves_meaning {registry : Registry} {query : Query}
    {absorbed : Absorbed Token} (hsigil : registry.config.sigil ≠ "")
    (hquery : query.sigil = registry.config.sigil)
    (h : (absorb query registry).2.result = .ok absorbed) :
  let changed := (absorb query registry).1
  let read := scan registry.config.sigil (absorbed.template.text Token.name)
  ∃ references meaning,
    query.references = .ok references ∧ query.meaning = .ok meaning
      ∧ read.mapSlots (fun _ => ()) = (scan query.sigil query.sql).mapSlots (fun _ => ())
      ∧ read.slots.map (fun numeral => some numeral.value)
        = references.slots.map (fun position => absorbed.entries[position]?.map Token.id)
      ∧ absorbed.entries.length = query.values.length
      ∧ (∀ (position : Nat) token, absorbed.entries[position]? = some token →
          changed.value? token = .ok query.values[position]?)
      ∧ read.mapSlots (fun numeral => changed.lookup (changed.tokenOf numeral.value))
        = meaning.mapSlots some
  := by
  intro changed read
  have hsucceeds : Succeeds (absorb query) registry absorbed changed := ⟨rfl, h⟩
  obtain ⟨hscan, exchange, hexchange⟩ := scan_text_absorbed hsigil hquery hsucceeds
  obtain ⟨hbody, hentries, hchanged, -⟩ := of_succeeds_absorb hsucceeds
  have hread : read = absorbed.template.mapSlots fun token => Numeral.ofId token.id := hscan
  have hlength : absorbed.entries.length = query.values.length := by
    rw [hentries, length_nextTokens]
  have hpositions : ∀ position ∈ absorbed.body.slots, position < query.values.length :=
    fun position => Query.lt_of_mem_slots hbody
  have hvalue : ∀ (position : Nat) token, absorbed.entries[position]? = some token →
      changed.value? token = .ok query.values[position]? := by
    intro position token htoken
    rw [hentries] at htoken
    rw [hchanged]
    apply value?_nextTokens_map htoken
  use absorbed.body, Absorbed.template ⟨absorbed.body, query.values⟩, hbody
  constructor
  · rw [Query.meaning, hbody]
    rfl
  constructor
  · rw [hread, hexchange, Template.mapSlots_mapSlots]
  constructor
  · have hids := congrArg Template.slots
      (Absorbed.mapSlots_template_of_lt absorbed (by rwa [hlength]) fun token => some token.id)
    rw [Template.slots_mapSlots, Template.slots_mapSlots] at hids
    rw [hread, Template.slots_mapSlots, List.map_map]
    simpa only [Function.comp_def, Numeral.value_ofId, Option.map_eq_bind] using hids
  constructor
  · apply hlength
  constructor
  · apply hvalue
  · rw [hread, Template.mapSlots_mapSlots,
      Absorbed.mapSlots_template_of_lt absorbed (by rwa [hlength]),
      Absorbed.mapSlots_template_of_lt ⟨absorbed.body, query.values⟩ hpositions]
    apply Template.mapSlots_congr
    intro position hposition
    have hlt := hpositions position hposition
    rw [← hlength] at hlt
    have hentry := List.getElem?_eq_getElem hlt
    have hmem : absorbed.entries[position] ∈ registry.nextTokens query.values.length := by
      rw [← hentries]
      apply List.getElem_mem
    have htoken : changed.tokenOf absorbed.entries[position].id
        = absorbed.entries[position] := by
      rw [hchanged, tokenOf_append, ← eq_tokenOf_of_mem_nextTokens hmem]
    rw [hentry, Option.bind_some, Numeral.value_ofId, htoken, Option.bind_fun_some, lookup,
      hvalue position _ hentry]
    rfl

/-- A registry that has issued two tokens absorbs a query with three tokens for two
values. -/
theorem absorb_preserves_meaning_of_two_values :
  ∃ absorbed,
    (absorb ⟨"a = $1 AND b < $2 OR $1", [.int 4, .text "x"], "$", 1⟩
        ((new {} 0).append [some (.int 7), none])).2.result = .ok absorbed
      ∧ (scan "$" (absorbed.template.text Token.name)).mapSlots (fun _ => ())
        = (scan "$" "a = $1 AND b < $2 OR $1").mapSlots fun _ => ()
  := by
  cases h : (absorb ⟨"a = $1 AND b < $2 OR $1", [.int 4, .text "x"], "$", 1⟩
      ((new {} 0).append [some (.int 7), none])).2.result with
  | error e =>
    have hok : (absorb ⟨"a = $1 AND b < $2 OR $1", [.int 4, .text "x"], "$", 1⟩
        ((new {} 0).append [some (.int 7), none])).2.result.toOption.isSome = true := by
      decide +kernel
    rw [h] at hok
    contradiction
  | ok absorbed =>
    obtain ⟨_, _, _, _, htext, _⟩ := absorb_preserves_meaning (by decide) rfl h
    use absorbed, rfl
    apply htext

end Registry

end BoundSql
