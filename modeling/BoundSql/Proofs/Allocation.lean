import BoundSql.Proofs.Form
import BoundSql.Proofs.Outcome

/-!
# Issuing tokens

A registry grows by `Registry.append`.  Issuing a token for each value of a list appends
the values in order and gives the next tokens, in order; when it fails in the middle, what
has been appended is released again by `Registry.atomic`.
-/

namespace BoundSql

open Stateful

namespace Registry

variable {α β : Type}

/-- The registry with further tokens, for the values of `entries`. -/
def append (registry : Registry) (entries : List (Option Value)) : Registry :=
  { registry with entries := registry.entries ++ entries.toArray }

/-- The next tokens, as many as `count`. -/
def nextTokens (registry : Registry) (count : Nat) : List Token :=
  (List.range' (registry.firstId + registry.size) count).map registry.tokenOf

@[simp]
theorem config_append (registry : Registry) (entries : List (Option Value)) :
  (registry.append entries).config = registry.config
  := rfl

@[simp]
theorem lifetime_append (registry : Registry) (entries : List (Option Value)) :
  (registry.append entries).lifetime = registry.lifetime
  := rfl

@[simp]
theorem firstId_append (registry : Registry) (entries : List (Option Value)) :
  (registry.append entries).firstId = registry.firstId
  := rfl

@[simp]
theorem tokenOf_append (registry : Registry) (entries : List (Option Value)) :
  (registry.append entries).tokenOf = registry.tokenOf
  := rfl

@[simp]
theorem toList_entries_append (registry : Registry) (entries : List (Option Value)) :
  (registry.append entries).entries.toList = registry.entries.toList ++ entries
  := by
  simp [append]

@[simp]
theorem size_append (registry : Registry) (entries : List (Option Value)) :
  (registry.append entries).size = registry.size + entries.length
  := by
  simp [append, size]

@[simp]
theorem append_nil (registry : Registry) :
  registry.append [] = registry
  := by
  simp [append]

@[simp]
theorem append_append (registry : Registry) (entries more : List (Option Value)) :
  (registry.append entries).append more = registry.append (entries ++ more)
  := by
  simp [append]

theorem extend_eq_append (registry : Registry) (entry : Option Value) :
  registry.extend entry = registry.append [entry]
  := by
  simp [extend, append]

/-- Releasing the tokens from a mark on undoes what has been appended since. -/
theorem rollback_append (registry : Registry) (entries : List (Option Value)) :
  (registry.append entries).rollback registry.mark = registry
  := by
  simp [rollback, append, mark, size]

@[simp]
theorem length_nextTokens (registry : Registry) (count : Nat) :
  (registry.nextTokens count).length = count
  := by
  simp [nextTokens]

theorem nextTokens_succ (registry : Registry) (entry : Option Value) (count : Nat) :
  registry.nextTokens (count + 1)
    = registry.tokenOf (registry.firstId + registry.size)
      :: (registry.append [entry]).nextTokens count
  := by
  simp [nextTokens, List.range'_succ, Nat.add_assoc]

theorem eq_tokenOf_of_mem_nextTokens {registry : Registry} {count : Nat} {token : Token}
    (h : token ∈ registry.nextTokens count) :
  token = registry.tokenOf token.id
  := by
  obtain ⟨id, -, rfl⟩ := List.mem_map.mp h
  rfl

/-! ### One token -/

theorem nextToken_eq_ok {registry : Registry} {token : Token} :
  registry.nextToken = .ok token
    ↔ registry.size < registry.capacity
      ∧ isTokenId (registry.firstId + registry.size) = true
      ∧ token = registry.tokenOf (registry.firstId + registry.size)
  := by
  by_cases hfull : registry.capacity ≤ registry.size
  · simp [nextToken, hfull, Nat.not_lt_of_le hfull]
  · rw [Nat.not_le] at hfull
    by_cases hid : isTokenId (registry.firstId + registry.size) = true
    · simp [nextToken, nextId, Nat.not_le_of_lt hfull, hfull, hid, Except.map, eq_comm]
    · simp [nextToken, nextId, Nat.not_le_of_lt hfull, hid, Except.map]

theorem succeeds_issue {entry : Option Value} {registry changed : Registry} {token : Token} :
  Succeeds (issue entry) registry token changed
    ↔ registry.nextToken = .ok token ∧ changed = registry.append [entry]
  := by
  cases h : registry.nextToken with
  | error e => simp [Succeeds, issue, h, Traced.fail]
  | ok next =>
    simp [Succeeds, issue, h, extend_eq_append, eq_comm, and_comm]

theorem of_fails_issue {entry : Option Value} {registry changed : Registry} {e : Error}
    (h : Fails (issue entry) registry e changed) :
  changed = registry
  := by
  cases hnext : registry.nextToken with
  | error e' =>
    rw [Fails, issue, hnext] at h
    apply h.1.symm
  | ok next =>
    rw [Fails, issue, hnext] at h
    cases h.2

/-! ### Several tokens -/

/-- Issuing a token for each of several values gives the next tokens and appends the
values. -/
theorem of_succeeds_allocate {values : List Value} {registry changed : Registry}
    {tokens : List Token} (h : Succeeds (values.mapM allocate) registry tokens changed) :
  changed = registry.append (values.map some)
    ∧ tokens = registry.nextTokens values.length
    ∧ ∀ token ∈ tokens, isTokenId token.id = true
  := by
  induction values generalizing registry tokens with
  | nil =>
    rw [List.mapM_nil] at h
    obtain ⟨rfl, rfl⟩ := succeeds_pure.mp h
    simp [nextTokens]
  | cons value values ih =>
    rw [List.mapM_cons] at h
    obtain ⟨token, next, hissue, hrest⟩ := succeeds_bind.mp h
    obtain ⟨rest, final, hvalues, hpure⟩ := succeeds_bind.mp hrest
    obtain ⟨rfl, rfl⟩ := succeeds_pure.mp hpure
    obtain ⟨htoken, rfl⟩ := succeeds_issue.mp hissue
    obtain ⟨-, hid, rfl⟩ := nextToken_eq_ok.mp htoken
    obtain ⟨rfl, rfl, hids⟩ := ih hvalues
    constructor
    · simp
    · constructor
      · rw [List.length_cons, nextTokens_succ]
      · rw [List.forall_mem_cons]
        use hid, hids

/-! ### Known tokens -/

theorem position?_eq_some {registry : Registry} {token : Token}
    {i : Fin registry.entries.size} :
  registry.position? token = some i ↔ token = registry.tokenOf (registry.firstId + i)
  := by
  constructor
  · intro h
    rw [position?, Option.dite_none_right_eq_some] at h
    obtain ⟨⟨hlifetime, hsigil, hfirst, hsize⟩, hi⟩ := h
    rw [← Option.some.inj hi]
    obtain ⟨id, sigil, lifetime⟩ := token
    simp only [tokenOf, Token.mk.injEq]
    use (Nat.add_sub_cancel' hfirst).symm, hsigil, hlifetime
  · rintro rfl
    have hknown : registry.firstId ≤ registry.firstId + i
        ∧ registry.firstId + i - registry.firstId < registry.entries.size := by
      constructor
      · apply Nat.le_add_right
      · rw [Nat.add_sub_cancel_left]
        apply i.isLt
    rw [position?, dif_pos ⟨rfl, rfl, hknown⟩]
    simp [tokenOf]

theorem position_eq_ok {registry : Registry} {token : Token}
    {i : Fin registry.entries.size} :
  registry.position token = .ok i ↔ token = registry.tokenOf (registry.firstId + i)
  := by
  rw [← position?_eq_some, position]
  cases registry.position? token with
  | none => simp
  | some j => simp

/-- A registry knows the tokens of its lifetime with the numbers that it has issued. -/
theorem contains_iff {registry : Registry} {token : Token} :
  registry.contains token = true
    ↔ ∃ k < registry.size, token = registry.tokenOf (registry.firstId + k)
  := by
  rw [contains, Option.isSome_iff_exists]
  constructor
  · rintro ⟨i, hi⟩
    use i, i.isLt
    apply position?_eq_some.mp hi
  · rintro ⟨k, hk, htoken⟩
    use ⟨k, hk⟩
    apply position?_eq_some.mpr htoken

theorem value?_eq_ok {registry : Registry} {token : Token} {entry : Option Value} :
  registry.value? token = .ok entry
    ↔ ∃ k, token = registry.tokenOf (registry.firstId + k)
        ∧ registry.entries.toList[k]? = some entry
  := by
  rw [value?, Except.bind_eq_ok]
  constructor
  · rintro ⟨i, hi, hentry⟩
    use i, position_eq_ok.mp hi
    rw [← Except.ok.inj hentry]
    simp
  · rintro ⟨k, htoken, hk⟩
    obtain ⟨hsize, hentry⟩ := List.getElem?_eq_some_iff.mp hk
    use ⟨k, by simpa using hsize⟩, position_eq_ok.mpr htoken
    rw [← hentry]
    rfl

/-- The value that a token is bound to, if the registry knows it. -/
def lookup (registry : Registry) (token : Token) : Option Value :=
  (registry.value? token).toOption.join

theorem lookup_eq_some {registry : Registry} {token : Token} {value : Value} :
  registry.lookup token = some value ↔ registry.value? token = .ok (some value)
  := by
  rw [lookup]
  cases registry.value? token with
  | error e => simp [Except.toOption]
  | ok entry => simp [Except.toOption]

/-- What a registry knows it still knows when it has grown. -/
theorem value?_append {registry : Registry} {token : Token} {entry : Option Value}
    (h : registry.value? token = .ok entry) (entries : List (Option Value)) :
  (registry.append entries).value? token = .ok entry
  := by
  obtain ⟨k, htoken, hk⟩ := value?_eq_ok.mp h
  apply value?_eq_ok.mpr
  use k, htoken
  obtain ⟨hsize, -⟩ := List.getElem?_eq_some_iff.mp hk
  rw [toList_entries_append, List.getElem?_append_left hsize, hk]

/-- The next tokens stand for the entries that are appended. -/
theorem value?_nextTokens {registry : Registry} {entries : List (Option Value)} {k : Nat}
    {token : Token} (h : (registry.nextTokens entries.length)[k]? = some token) :
  ∃ entry, entries[k]? = some entry ∧ (registry.append entries).value? token = .ok entry
  := by
  obtain ⟨hk, htoken⟩ := List.getElem?_eq_some_iff.mp h
  rw [length_nextTokens] at hk
  use entries[k], List.getElem?_eq_getElem hk
  apply value?_eq_ok.mpr
  use registry.size + k
  constructor
  · rw [← htoken]
    simp [nextTokens, Nat.add_assoc]
  · have hsize : registry.entries.toList.length = registry.size := by simp [size]
    rw [toList_entries_append, ← hsize, List.getElem?_append_right (Nat.le_add_right _ k),
      Nat.add_sub_cancel_left, List.getElem?_eq_getElem hk]

/-- The next tokens stand for the values that are appended. -/
theorem value?_nextTokens_map {registry : Registry} {values : List Value} {k : Nat}
    {token : Token} (h : (registry.nextTokens values.length)[k]? = some token) :
  (registry.append (values.map some)).value? token = .ok values[k]?
  := by
  rw [← List.length_map (f := some)] at h
  obtain ⟨entry, hentry, hknown⟩ := value?_nextTokens h
  rw [List.getElem?_map, Option.map_eq_some_iff] at hentry
  obtain ⟨value, hvalue, rfl⟩ := hentry
  rw [hknown, hvalue]

theorem map_lookup_nextTokens (registry : Registry) (values : List Value) :
  (registry.nextTokens values.length).map (registry.append (values.map some)).lookup
    = values.map some
  := by
  apply List.ext_getElem?
  intro k
  rw [List.getElem?_map, List.getElem?_map]
  cases h : (registry.nextTokens values.length)[k]? with
  | none =>
    rw [List.getElem?_eq_none_iff, length_nextTokens] at h
    rw [List.getElem?_eq_none_iff.mpr h]
    rfl
  | some token =>
    obtain ⟨hk, -⟩ := List.getElem?_eq_some_iff.mp h
    rw [length_nextTokens] at hk
    rw [Option.map_some, lookup, value?_nextTokens_map h, List.getElem?_eq_getElem hk]
    rfl

/-! ### Bound values -/

theorem valuesFrom_eq_ok {sigil : String} {id : Nat} {entries : List (Option Value)}
    {values : List Value} :
  valuesFrom sigil id entries = .ok values ↔ entries = values.map some
  := by
  induction entries generalizing id values with
  | nil => cases values <;> simp [valuesFrom]
  | cons entry entries ih =>
    cases entry with
    | none => cases values <;> simp [valuesFrom]
    | some value =>
      rw [valuesFrom, Except.bind_eq_ok]
      cases values with
      | nil => simp [pure, Except.pure]
      | cons first values =>
        simp only [ih, pure, Except.pure, List.map_cons, List.cons.injEq, Except.ok.injEq,
          Option.some.injEq]
        constructor
        · rintro ⟨rest, hrest, rfl, rfl⟩
          use rfl
        · rintro ⟨rfl, hrest⟩
          use values, hrest, rfl

theorem boundValues_eq_ok {registry : Registry} {values : List Value} :
  registry.boundValues = .ok values ↔ registry.entries.toList = values.map some
  := valuesFrom_eq_ok

/-! ### Growing -/

/-- The computation changes a registry by appending only. -/
def Grows (x : Allocating α) : Prop :=
  ∀ registry, ∃ entries, (x registry).1 = registry.append entries

theorem Grows.pure (a : α) :
  Grows (pure a)
  := by
  intro registry
  use []
  simp

theorem Grows.lift (x : Traced α) :
  Grows (Stateful.lift x)
  := by
  intro registry
  use []
  simp [Stateful.lift]

theorem Grows.bind {x : Allocating α} {f : α → Allocating β} (hx : Grows x)
    (hf : ∀ a, Grows (f a)) :
  Grows (x >>= f)
  := by
  intro registry
  obtain ⟨entries, hentries⟩ := hx registry
  rcases h : x registry with ⟨changed, events, e | a⟩
  · use entries
    rw [run_bind_of_error h, ← hentries, h]
  · obtain ⟨more, hmore⟩ := hf a changed
    use entries ++ more
    rw [run_bind_of_ok h, ← append_append, ← hentries, h]
    apply hmore

theorem Grows.noteError {x : Allocating α} (hx : Grows x) (event : Error → Event) :
  Grows (x.noteError event)
  := hx

theorem Grows.issue (entry : Option Value) :
  Grows (issue entry)
  := by
  intro registry
  rcases succeeds_or_fails (Registry.issue entry) registry with ⟨token, h⟩ | ⟨e, h⟩
  · use [entry]
    exact (succeeds_issue.mp h).2
  · use []
    rw [append_nil]
    apply of_fails_issue h

theorem Grows.mapM {f : α → Allocating β} (hf : ∀ a, Grows (f a)) (as : List α) :
  Grows (as.mapM f)
  := by
  induction as with
  | nil => exact Grows.pure []
  | cons a as ih =>
    rw [List.mapM_cons]
    apply Grows.bind (hf a)
    intro b
    apply Grows.bind ih
    intro bs
    apply Grows.pure

theorem Grows.traverse {F : Type → Type} {T : Traversal F} (hT : T.IsLawful)
    {f : α → Allocating β} (hf : ∀ a, Grows (f a)) (x : F α) :
  Grows (T.traverse f x)
  := by
  intro registry
  rw [(hT.run_traverse f x registry).1]
  apply Grows.mapM hf

/-! ### Remembering -/

section Remembers

variable {registry changed final : Registry}

/-- What the registry knows by a token, the changed one still does. -/
def Remembers (registry changed : Registry) : Prop :=
  ∀ token value, registry.lookup token = some value → changed.lookup token = some value

theorem Remembers.refl (registry : Registry) :
  registry.Remembers registry
  := fun _ _ h => h

theorem Remembers.trans (h : registry.Remembers changed) (hmore : changed.Remembers final) :
  registry.Remembers final
  := fun token value hknown => hmore token value (h token value hknown)

theorem remembers_append (registry : Registry) (entries : List (Option Value)) :
  registry.Remembers (registry.append entries)
  := fun _ _ h => lookup_eq_some.mpr (value?_append (lookup_eq_some.mp h) entries)

theorem Grows.remembers {x : Allocating α} (hx : Grows x) (registry : Registry) :
  registry.Remembers (x registry).1
  := by
  obtain ⟨entries, hchanged⟩ := hx registry
  rw [hchanged]
  apply remembers_append

/-- Tokens that stand for values still do for a registry that remembers them. -/
theorem Remembers.map_lookup (h : registry.Remembers changed) {tokens : List Token}
    {values : List Value} (hknown : tokens.map registry.lookup = values.map some) :
  tokens.map changed.lookup = values.map some
  := by
  induction tokens generalizing values with
  | nil => exact hknown
  | cons token tokens ih =>
    cases values with
    | nil => cases hknown
    | cons value values =>
      obtain ⟨hfirst, hrest⟩ := List.cons.inj hknown
      rw [List.map_cons, List.map_cons, h token value hfirst, ih hrest]

end Remembers

/-! ### Releasing tokens after a failure -/

theorem succeeds_atomic {x : Allocating α} {registry changed : Registry} {a : α} :
  Succeeds (atomic x) registry a changed ↔ Succeeds x registry a changed
  := by
  rcases h : x registry with ⟨next, events, e | b⟩
  · simp [Succeeds, atomic, h]
  · simp [Succeeds, atomic, h]

/-- A growing computation that fails leaves the registry as it was. -/
theorem of_fails_atomic {x : Allocating α} (hx : Grows x) {registry changed : Registry}
    {e : Error} (h : Fails (atomic x) registry e changed) :
  changed = registry
  := by
  obtain ⟨entries, hentries⟩ := hx registry
  rcases hrun : x registry with ⟨next, events, e' | b⟩
  · rw [hrun] at hentries
    have hchanged : next.rollback registry.mark = changed := by
      simpa [Fails, atomic, hrun] using h.1
    apply Eq.trans hchanged.symm
    apply Eq.trans (congrArg (fun r => r.rollback registry.mark) hentries)
    apply rollback_append
  · simp [Fails, atomic, hrun] at h

theorem Grows.atomic {x : Allocating α} (hx : Grows x) :
  Grows (atomic x)
  := by
  intro registry
  rcases succeeds_or_fails (Registry.atomic x) registry with ⟨a, h⟩ | ⟨e, h⟩
  · rw [← (succeeds_atomic.mp h).1]
    apply hx
  · use []
    rw [append_nil]
    apply of_fails_atomic hx h

end Registry

end BoundSql
