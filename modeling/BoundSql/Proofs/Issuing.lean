import BoundSql.Proofs.Binding

/-!
# What a registry issues

`Registry.Issues` says all that a change of a registry can do within one lifetime: it issues
some tokens, which are the next ones, and keeps those that it has issued before.  Every
computation on a registry is such a change, with the tokens that it hands out; one that fails
hands out none, whatever it has issued on the way.
-/

namespace BoundSql

open Stateful

namespace Registry

variable {α : Type} {registry changed final : Registry} {tokens more : List Token}
  {token : Token}

/-- The registry has issued further tokens and is otherwise the same, except for the
values. -/
structure Issues (registry : Registry) (tokens : List Token) (changed : Registry) : Prop where
  config_eq : changed.config = registry.config
  lifetime_eq : changed.lifetime = registry.lifetime
  size_eq : changed.size = registry.size + tokens.length
  tokens_eq : tokens = registry.nextTokens tokens.length

theorem issues_nil (registry : Registry) :
  registry.Issues [] registry
  := ⟨rfl, rfl, rfl, rfl⟩

theorem issues_append (registry : Registry) (entries : List (Option Value)) :
  registry.Issues (registry.nextTokens entries.length) (registry.append entries)
  := by
  constructor
  · rfl
  · rfl
  · rw [size_append, length_nextTokens]
  · rw [length_nextTokens]

/-! ### Issued tokens are known and new -/

theorem Issues.firstId_eq (h : registry.Issues tokens changed) :
  changed.firstId = registry.firstId
  := by
  rw [firstId, firstId, h.config_eq]

theorem Issues.tokenOf_eq (h : registry.Issues tokens changed) :
  changed.tokenOf = registry.tokenOf
  := by
  funext id
  rw [tokenOf, tokenOf, h.config_eq, h.lifetime_eq]

theorem mem_nextTokens {count : Nat} :
  token ∈ registry.nextTokens count
    ↔ ∃ k < count, token = registry.tokenOf (registry.firstId + (registry.size + k))
  := by
  rw [nextTokens, List.mem_map]
  constructor
  · rintro ⟨id, hid, rfl⟩
    obtain ⟨k, hk, rfl⟩ := List.mem_range'.mp hid
    use k, hk
    rw [Nat.one_mul, Nat.add_assoc]
  · rintro ⟨k, hk, rfl⟩
    use registry.firstId + (registry.size + k)
    constructor
    · apply List.mem_range'.mpr
      use k, hk
      rw [Nat.one_mul, Nat.add_assoc]
    · rfl

theorem nodup_nextTokens (registry : Registry) (count : Nat) :
  (registry.nextTokens count).Nodup
  := by
  apply List.Pairwise.map _ _ (List.nodup_range' 1)
  intro id id' hne h
  apply hne (congrArg Token.id h)

theorem lifetime_eq_of_contains (h : registry.contains token = true) :
  token.lifetime = registry.lifetime
  := by
  obtain ⟨k, -, rfl⟩ := contains_iff.mp h
  rfl

theorem Issues.mem_iff (h : registry.Issues tokens changed) :
  token ∈ tokens
    ↔ ∃ k < tokens.length, token = registry.tokenOf (registry.firstId + (registry.size + k))
  := by
  rw [← mem_nextTokens, ← h.tokens_eq]

/-- What a registry has issued it knows. -/
theorem Issues.contains_of_mem (h : registry.Issues tokens changed) (htoken : token ∈ tokens) :
  changed.contains token = true
  := by
  obtain ⟨k, hk, rfl⟩ := h.mem_iff.mp htoken
  apply contains_iff.mpr
  use registry.size + k
  constructor
  · rw [h.size_eq]
    apply Nat.add_lt_add_left hk _
  · rw [h.tokenOf_eq, h.firstId_eq]

/-- What a registry issues it has not known before. -/
theorem Issues.not_contains_of_mem (h : registry.Issues tokens changed)
    (htoken : token ∈ tokens) :
  registry.contains token = false
  := by
  obtain ⟨k, -, rfl⟩ := h.mem_iff.mp htoken
  rw [← Bool.not_eq_true, contains_iff]
  rintro ⟨j, hj, hsame⟩
  have hid : registry.firstId + (registry.size + k) = registry.firstId + j :=
    congrArg Token.id hsame
  omega

/-- What a registry knows it still knows. -/
theorem Issues.contains_of_contains (h : registry.Issues tokens changed)
    (hknown : registry.contains token = true) :
  changed.contains token = true
  := by
  obtain ⟨k, hk, rfl⟩ := contains_iff.mp hknown
  apply contains_iff.mpr
  use k
  constructor
  · rw [h.size_eq]
    apply Nat.lt_add_right _ hk
  · rw [h.tokenOf_eq, h.firstId_eq]

theorem Issues.lifetime_eq_of_mem (h : registry.Issues tokens changed)
    (htoken : token ∈ tokens) :
  token.lifetime = registry.lifetime
  := by
  obtain ⟨k, -, rfl⟩ := h.mem_iff.mp htoken
  rfl

theorem Issues.nodup (h : registry.Issues tokens changed) :
  tokens.Nodup
  := by
  rw [h.tokens_eq]
  apply nodup_nextTokens

theorem Issues.trans (h : registry.Issues tokens changed) (hmore : changed.Issues more final) :
  registry.Issues (tokens ++ more) final
  := by
  constructor
  · rw [hmore.config_eq, h.config_eq]
  · rw [hmore.lifetime_eq, h.lifetime_eq]
  · rw [hmore.size_eq, h.size_eq, List.length_append, Nat.add_assoc]
  · rw [List.length_append]
    calc
      tokens ++ more
        = registry.nextTokens tokens.length ++ changed.nextTokens more.length := by
          rw [← h.tokens_eq, ← hmore.tokens_eq]
      _ = registry.nextTokens (tokens.length + more.length) := by
          rw [nextTokens, nextTokens, nextTokens, h.tokenOf_eq, h.firstId_eq, h.size_eq,
            ← Nat.add_assoc, ← List.map_append, List.range'_append_1]

/-! ### What each operation issues -/

/-- The tokens that a computation hands out: those of its result, and none if it fails. -/
def handsOut (x : Allocating α) (tokens : α → List Token) (registry : Registry) : List Token :=
  match (x registry).2.result with
  | .ok a => tokens a
  | .error _ => []

theorem issues_handsOut {x : Allocating α} {tokens : α → List Token}
    (hsucceeds : ∀ a changed, Succeeds x registry a changed →
      registry.Issues (tokens a) changed)
    (hfails : ∀ e changed, Fails x registry e changed → changed = registry) :
  registry.Issues (handsOut x tokens registry) (x registry).1
  := by
  rcases succeeds_or_fails x registry with ⟨a, h⟩ | ⟨e, h⟩
  · rw [handsOut, h.2]
    apply hsucceeds a _ h
  · rw [handsOut, h.2, hfails e _ h]
    apply issues_nil

theorem issues_issue (registry : Registry) (entry : Option Value) :
  registry.Issues (handsOut (issue entry) List.singleton registry) (issue entry registry).1
  := by
  apply issues_handsOut
  · intro token changed h
    obtain ⟨hnext, rfl⟩ := succeeds_issue.mp h
    obtain ⟨-, -, rfl⟩ := nextToken_eq_ok.mp hnext
    apply registry.issues_append [entry]
  · exact fun e changed => of_fails_issue

theorem issues_absorb (registry : Registry) (query : Query) :
  registry.Issues (handsOut (absorb query) Absorbed.entries registry) (absorb query registry).1
  := by
  apply issues_handsOut
  · intro absorbed changed h
    obtain ⟨-, hentries, rfl, -⟩ := of_succeeds_absorb h
    rw [hentries, ← List.length_map (f := some)]
    apply issues_append
  · exact fun e changed => of_fails_absorb

/-- The tokens that are handed out by allocating the same value several times, until it
fails. -/
def handsOutFilling (value : Value) : Nat → Registry → List Token
  | 0, _ => []
  | count + 1, registry =>
    match allocate value registry with
    | (changed, ⟨_, .ok token⟩) => token :: handsOutFilling value count changed
    | (_, ⟨_, .error _⟩) => []

theorem issues_fillFrom (value : Value) (count : Nat) (registry : Registry)
    (last : Option Token) (events : List Event) :
  registry.Issues (handsOutFilling value count registry)
    (fillFrom value count registry last events).1
  := by
  induction count generalizing registry last events with
  | zero => apply issues_nil
  | succ count ih =>
    cases hnext : registry.nextToken with
    | error e =>
      simp only [handsOutFilling, fillFrom, allocate, issue, hnext, Traced.fail]
      apply issues_nil
    | ok token =>
      simp only [handsOutFilling, fillFrom, allocate, issue, hnext]
      obtain ⟨-, -, rfl⟩ := nextToken_eq_ok.mp hnext
      have hfirst := registry.issues_append [some value]
      rw [← extend_eq_append] at hfirst
      apply hfirst.trans (ih _ _ _)

theorem issues_fill (registry : Registry) (value : Value) (count : Nat) :
  registry.Issues (handsOutFilling value count registry) (fill value count registry).1
  := issues_fillFrom value count registry none []

theorem remembers_fillFrom (value : Value) (count : Nat) (registry : Registry)
    (last : Option Token) (events : List Event) :
  registry.Remembers (fillFrom value count registry last events).1
  := by
  induction count generalizing registry last events with
  | zero => exact Remembers.refl registry
  | succ count ih =>
    rw [fillFrom]
    cases registry.nextToken with
    | error e => exact Remembers.refl registry
    | ok token =>
      have hextend := registry.remembers_append [some value]
      rw [← extend_eq_append] at hextend
      exact hextend.trans (ih _ _ _)

/-- A token is bound to a value once, at the position that it has among the tokens. -/
theorem of_succeeds_bind {value : Value} {u : Unit}
    (h : Succeeds (Registry.bind token value) registry u changed) :
  ∃ i : Fin registry.entries.size, token = registry.tokenOf (registry.firstId + i)
    ∧ registry.entries.toList[i.val]? = some none
    ∧ changed = { registry with entries := registry.entries.set i (some value) i.isLt }
  := by
  obtain ⟨hchanged, hresult⟩ := h
  rw [Registry.bind] at hchanged hresult
  split at hchanged
  next e hposition =>
    rw [hposition] at hresult
    contradiction
  next i hposition =>
    rw [hposition] at hresult
    use i, position_eq_ok.mp hposition
    split at hchanged
    next hentry =>
      simp only [hentry] at hresult
      contradiction
    next hentry =>
      have hnone : registry.entries.toList[i.val]? = some none := by
        rw [Array.getElem?_toList, Array.getElem?_eq_getElem i.isLt, ← hentry]
        rfl
      exact ⟨hnone, hchanged.symm⟩

theorem of_fails_bind {value : Value} {e : Error}
    (h : Fails (Registry.bind token value) registry e changed) :
  changed = registry
  := by
  obtain ⟨hchanged, hresult⟩ := h
  rw [Registry.bind] at hchanged hresult
  split at hchanged
  next e hposition => exact hchanged.symm
  next i hposition =>
    rw [hposition] at hresult
    split at hchanged
    next hentry => exact hchanged.symm
    next hentry =>
      simp only [hentry] at hresult
      contradiction

theorem issues_bind (registry : Registry) (token : Token) (value : Value) :
  registry.Issues [] (Registry.bind token value registry).1
  := by
  rw [Registry.bind]
  split
  · apply issues_nil
  · split
    · apply issues_nil
    · exact ⟨rfl, rfl, by simp [size], rfl⟩

/-- Binding a token to a value touches no token that has one. -/
theorem remembers_bind (registry : Registry) (token : Token) (value : Value) :
  registry.Remembers (Registry.bind token value registry).1
  := by
  obtain ⟨u, h⟩ | ⟨e, h⟩ := succeeds_or_fails (Registry.bind token value) registry
  · obtain ⟨i, -, hfree, hchanged⟩ := of_succeeds_bind h
    rw [hchanged]
    intro other known hknown
    obtain ⟨k, hother, hentry⟩ := value?_eq_ok.mp (lookup_eq_some.mp hknown)
    apply lookup_eq_some.mpr
    apply value?_eq_ok.mpr
    use k, hother
    have hne : i.val ≠ k := by
      rintro rfl
      rw [hfree] at hentry
      cases hentry
    rw [Array.toList_set, List.getElem?_set_ne hne]
    exact hentry
  · rw [of_fails_bind h]
    exact Remembers.refl registry

end Registry

namespace Fragment

variable {clause : Clause} {arity : Arity}

/-- The tokens of the form that has been kept last. -/
def newest (fragment : Fragment clause arity) : List Token :=
  fragment.items.getLast?.toList.flatMap clause.literals

theorem newest_of_items_eq {fragment : Fragment clause arity}
    {items : List (clause.Form Token)} {form : clause.Form Token}
    (h : fragment.items = arity.keep items form) :
  fragment.newest = clause.literals form
  := by
  have hlast : (arity.keep items form).getLast? = some form := by
    cases arity with
    | one => rfl
    | many => exact List.getLast?_concat
  rw [newest, h, hlast]
  apply List.flatMap_singleton

theorem issues_set (fragment : Fragment clause arity) (args : Option clause.Args)
    (registry : Registry) :
  registry.Issues (Registry.handsOut (fragment.set args) newest registry)
    (fragment.set args registry).1
  := by
  apply Registry.issues_handsOut
  · intro changed after h
    cases args with
    | none =>
      obtain ⟨rfl, hitems⟩ := of_succeeds_set_none h
      have hnewest : changed.newest = [] := by rw [newest, hitems]; rfl
      rw [hnewest]
      apply Registry.issues_nil
    | some args =>
      obtain ⟨checked, form, hbound, hitems⟩ := of_succeeds_set_some h
      rw [newest_of_items_eq hitems, hbound.literals_eq, hbound.changed_eq,
        ← List.length_map (f := some)]
      apply Registry.issues_append
  · exact fun e changed => of_fails_set

/-- Setting a fragment keeps no tokens but those that it has kept before and those of the new
form. -/
theorem mem_tokens_of_set {fragment changed : Fragment clause arity}
    {args : Option clause.Args} {registry after : Registry} {token : Token}
    (h : Succeeds (fragment.set args) registry changed after) (htoken : token ∈ changed.tokens) :
  token ∈ fragment.tokens ∨ token ∈ changed.newest
  := by
  cases args with
  | none =>
    obtain ⟨-, hitems⟩ := of_succeeds_set_none h
    rw [tokens, hitems] at htoken
    contradiction
  | some args =>
    obtain ⟨checked, form, -, hitems⟩ := of_succeeds_set_some h
    rw [newest_of_items_eq hitems]
    rw [tokens, hitems] at htoken
    obtain ⟨kept, hkept, hliteral⟩ := List.mem_flatMap.mp htoken
    cases arity with
    | one =>
      right
      rwa [← List.mem_singleton.mp hkept]
    | many =>
      obtain hold | hnew := List.mem_append.mp hkept
      · left
        exact List.mem_flatMap.mpr ⟨kept, hold, hliteral⟩
      · right
        rwa [← List.mem_singleton.mp hnew]

end Fragment

end BoundSql
