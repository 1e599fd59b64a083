import BoundSql.Proofs.Issuing
import BoundSql.Workbench

/-!
# Who has issued a token

A `Ledger` lists all tokens that the commands on a workbench have handed out, and for each
slot those that the registry in it has issued in its present lifetime.  A workbench agrees
with its ledger after every run: of the tokens that have been handed out, a registry knows
exactly those that it has issued itself, and no two of them are equal
(`Workbench.contains_iff_issued`).
-/

namespace BoundSql

open Stateful

/-- The tokens that have been handed out, in order, and for each slot those that the registry
in it has issued since it was created, copied or last reset. -/
structure Ledger where
  handed : List Token
  issued : String → List Token

namespace Ledger

/-- The ledger in which nothing has been handed out. -/
def empty : Ledger := ⟨[], fun _ => []⟩

/-- Notes tokens that the registry in a slot has issued. -/
def note (ledger : Ledger) (r : String) (tokens : List Token) : Ledger where
  handed := ledger.handed ++ tokens
  issued other := if other = r then ledger.issued other ++ tokens else ledger.issued other

/-- Notes that a registry in a slot begins a new lifetime. -/
def renew (ledger : Ledger) (r : String) : Ledger :=
  { ledger with issued := fun other => if other = r then [] else ledger.issued other }

/-- Notes the tokens that a computation on the registry in a slot hands out, if there is a
registry. -/
def noteFrom (ledger : Ledger) (bench : Workbench) (r : String)
    (handsOut : Registry → List Token) : Ledger :=
  match bench.registries r with
  | none => ledger
  | some registry => ledger.note r (handsOut registry)

/-- The ledger after a command on a workbench. -/
def after (ledger : Ledger) (bench : Workbench) : Command → Ledger
  | .new r _ => ledger.renew r
  | .copy r target =>
    match bench.registries r with
    | none => ledger
    | some _ => ledger.renew target
  | .reset r =>
    match bench.registries r with
    | none => ledger
    | some _ => ledger.renew r
  | .allocate r value _ =>
    ledger.noteFrom bench r (Registry.handsOut (Registry.allocate value) List.singleton)
  | .reserve r _ => ledger.noteFrom bench r (Registry.handsOut Registry.reserve List.singleton)
  | .fill r value count => ledger.noteFrom bench r (Registry.handsOutFilling value count)
  | .absorb r query _ =>
    ledger.noteFrom bench r (Registry.handsOut (Registry.absorb query) Absorbed.entries)
  | .set f r clause args =>
    match bench.fragments f with
    | none => ledger
    | some held =>
      match held.set? clause args with
      | none => ledger
      | some request => ledger.noteFrom bench r (Registry.handsOut request Fragment.newest)
  | _ => ledger

/-- The ledger after commands on a workbench. -/
def along (ledger : Ledger) (bench : Workbench) : List Command → Ledger
  | [] => ledger
  | command :: commands => (ledger.after bench command).along (bench.step command).1 commands

variable {ledger : Ledger} {r other : String} {tokens : List Token} {token : Token}

@[simp]
theorem note_nil (ledger : Ledger) (r : String) :
  ledger.note r [] = ledger
  := by
  simp [note]

theorem mem_issued_note :
  token ∈ (ledger.note r tokens).issued other
    ↔ token ∈ ledger.issued other ∨ other = r ∧ token ∈ tokens
  := by
  by_cases hother : other = r
  · simp [note, hother]
  · simp [note, hother]

theorem mem_issued_renew :
  token ∈ (ledger.renew r).issued other ↔ other ≠ r ∧ token ∈ ledger.issued other
  := by
  by_cases hother : other = r
  · simp [renew, hother]
  · simp [renew, hother]

end Ledger

/-! ### Slots -/

namespace Slots

variable {α : Type} {slots : Slots α} {name other : String} {a b : α}

@[simp]
theorem put_self (slots : Slots α) (name : String) (a : α) :
  slots.put name a name = some a
  := if_pos rfl

theorem put_of_ne (h : other ≠ name) :
  slots.put name a other = slots other
  := if_neg h

theorem of_put_eq_some (h : slots.put name a other = some b) :
  b = a ∨ slots other = some b
  := by
  by_cases hother : other = name
  · subst hother
    rw [put_self] at h
    exact Or.inl (Option.some.inj h).symm
  · rw [put_of_ne hother] at h
    exact Or.inr h

theorem of_putIn?_eq_some {name : Option String} (h : slots.putIn? name a other = some b) :
  b = a ∨ slots other = some b
  := by
  cases name with
  | none => exact Or.inr h
  | some name => exact of_put_eq_some h

theorem of_putAll_eq_some {names : List String} {as : List α}
    (h : slots.putAll names as other = some b) :
  b ∈ as ∨ slots other = some b
  := by
  induction names generalizing slots as with
  | nil => exact Or.inr h
  | cons name names ih =>
    cases as with
    | nil => exact Or.inr h
    | cons a as =>
      obtain hmem | hput := ih h
      · exact Or.inl (List.mem_cons_of_mem a hmem)
      · obtain rfl | hold := of_put_eq_some hput
        · exact Or.inl List.mem_cons_self
        · exact Or.inr hold

end Slots

/-! ### Workbenches that agree with a ledger -/

namespace Workbench

variable {bench changed : Workbench} {ledger : Ledger} {registry : Registry} {r : String}
  {tokens : List Token}

/-- The tokens that can be taken from a workbench. -/
def Shows (bench : Workbench) (token : Token) : Prop :=
  (∃ p, bench.tokens p = some token)
    ∨ ∃ f held, bench.fragments f = some held ∧ token ∈ held.fragment.tokens

/-- No two registries have the same origin, and new ones have another one. -/
structure HasOrigins (bench : Workbench) : Prop where
  lt_nextOrigin : ∀ r registry, bench.registries r = some registry →
    registry.lifetime.origin < bench.nextOrigin
  eq_of_origin_eq : ∀ r registry r' registry', bench.registries r = some registry →
    bench.registries r' = some registry' →
    registry.lifetime.origin = registry'.lifetime.origin → r = r'

/-- The token is from the lifetimes that have begun so far; if the registry that issued it is
still in its lifetime, it is listed among what this has issued. -/
structure IsPast (bench : Workbench) (ledger : Ledger) (token : Token) : Prop where
  lt_nextOrigin : token.lifetime.origin < bench.nextOrigin
  epoch_le : ∀ r registry, bench.registries r = some registry →
    token.lifetime.origin = registry.lifetime.origin →
    token.lifetime.epoch ≤ registry.lifetime.epoch
  mem_issued : ∀ r registry, bench.registries r = some registry →
    token.lifetime = registry.lifetime → token ∈ ledger.issued r

/-- A workbench agrees with a ledger. -/
structure Accounts (bench : Workbench) (ledger : Ledger) : Prop where
  nodup : ledger.handed.Nodup
  hasOrigins : bench.HasOrigins
  isPast : ∀ token ∈ ledger.handed, bench.IsPast ledger token
  mem_handed_of_issued : ∀ r, ∀ token ∈ ledger.issued r, token ∈ ledger.handed
  contains_of_issued : ∀ r registry, bench.registries r = some registry →
    ∀ token ∈ ledger.issued r, registry.contains token = true
  mem_handed_of_shows : ∀ token, bench.Shows token → token ∈ ledger.handed

theorem accounts_empty :
  empty.Accounts Ledger.empty
  := by
  constructor
  · apply List.nodup_nil
  · constructor
    · intro r registry h
      contradiction
    · intro r registry r' registry' h
      contradiction
  · intro token h
    contradiction
  · intro r token h
    contradiction
  · intro r registry h
    contradiction
  · rintro token (⟨p, h⟩ | ⟨f, held, h, -⟩)
    · contradiction
    · contradiction

/-- Of the tokens that have been handed out, a registry knows those that it has issued. -/
theorem Accounts.contains_iff (h : bench.Accounts ledger) (hr : bench.registries r = some registry)
    {token : Token} (htoken : token ∈ ledger.handed) :
  registry.contains token = true ↔ token ∈ ledger.issued r
  := by
  constructor
  · intro hknown
    apply (h.isPast token htoken).mem_issued r registry hr
    apply Registry.lifetime_eq_of_contains hknown
  · apply h.contains_of_issued r registry hr

/-- Changing what stands in the slots for tokens and fragments keeps the agreement if all of
it has been handed out. -/
theorem Accounts.of_shows (h : bench.Accounts ledger)
    (hregistries : changed.registries = bench.registries)
    (hnextOrigin : changed.nextOrigin = bench.nextOrigin)
    (hshows : ∀ token, changed.Shows token → token ∈ ledger.handed) :
  changed.Accounts ledger
  := by
  obtain ⟨registries, tokens, fragments, nextOrigin⟩ := changed
  obtain rfl : registries = bench.registries := hregistries
  obtain rfl : nextOrigin = bench.nextOrigin := hnextOrigin
  constructor
  · apply h.nodup
  · exact ⟨h.hasOrigins.lt_nextOrigin, h.hasOrigins.eq_of_origin_eq⟩
  · intro token htoken
    obtain ⟨hlt, hepoch, hmem⟩ := h.isPast token htoken
    exact ⟨hlt, hepoch, hmem⟩
  · apply h.mem_handed_of_issued
  · apply h.contains_of_issued
  · apply hshows

/-! ### Issuing tokens -/

theorem registries_putRegistry_self (bench : Workbench) (r : String) (registry : Registry) :
  (bench.putRegistry r registry).registries r = some registry
  := Slots.put_self _ r registry

theorem registries_putRegistry_of_ne {other : String} (h : other ≠ r) :
  (bench.putRegistry r registry).registries other = bench.registries other
  := Slots.put_of_ne h

theorem of_registries_putRegistry {next found : Registry} {other : String}
    (h : (bench.putRegistry r next).registries other = some found) :
  other = r ∧ found = next ∨ other ≠ r ∧ bench.registries other = some found
  := by
  by_cases hother : other = r
  · subst hother
    rw [registries_putRegistry_self] at h
    exact Or.inl ⟨rfl, (Option.some.inj h).symm⟩
  · right
    use hother
    rwa [registries_putRegistry_of_ne hother] at h

/-- What stood in a slot before its registry changed within one lifetime. -/
theorem of_registries_issues {next found : Registry} {other : String}
    (hr : bench.registries r = some registry) (hissues : registry.Issues tokens next)
    (h : (bench.putRegistry r next).registries other = some found) :
  ∃ before, bench.registries other = some before ∧ found.lifetime = before.lifetime
  := by
  obtain ⟨rfl, rfl⟩ | ⟨-, hold⟩ := of_registries_putRegistry h
  · use registry, hr, hissues.lifetime_eq
  · use found, hold

theorem HasOrigins.issues (h : bench.HasOrigins) {next : Registry}
    (hr : bench.registries r = some registry) (hissues : registry.Issues tokens next) :
  (bench.putRegistry r next).HasOrigins
  := by
  constructor
  · intro other found hfound
    obtain ⟨before, hbefore, hlifetime⟩ := of_registries_issues hr hissues hfound
    rw [hlifetime]
    apply h.lt_nextOrigin other before hbefore
  · intro other found other' found' hfound hfound' horigin
    obtain ⟨before, hbefore, hlifetime⟩ := of_registries_issues hr hissues hfound
    obtain ⟨before', hbefore', hlifetime'⟩ := of_registries_issues hr hissues hfound'
    rw [hlifetime, hlifetime'] at horigin
    apply h.eq_of_origin_eq other before other' before' hbefore hbefore' horigin

theorem IsPast.issues {token : Token} (h : bench.IsPast ledger token) {next : Registry}
    (hr : bench.registries r = some registry) (hissues : registry.Issues tokens next) :
  (bench.putRegistry r next).IsPast (ledger.note r tokens) token
  := by
  constructor
  · apply h.lt_nextOrigin
  · intro other found hfound horigin
    obtain ⟨before, hbefore, hlifetime⟩ := of_registries_issues hr hissues hfound
    rw [hlifetime] at horigin ⊢
    apply h.epoch_le other before hbefore horigin
  · intro other found hfound hsame
    obtain ⟨before, hbefore, hlifetime⟩ := of_registries_issues hr hissues hfound
    rw [hlifetime] at hsame
    apply Ledger.mem_issued_note.mpr
    left
    apply h.mem_issued other before hbefore hsame

/-- What a registry issues is from its lifetime, which no other registry shares. -/
theorem isPast_of_issues (h : bench.HasOrigins) {next : Registry}
    (hr : bench.registries r = some registry) (hissues : registry.Issues tokens next)
    {token : Token} (htoken : token ∈ tokens) :
  (bench.putRegistry r next).IsPast (ledger.note r tokens) token
  := by
  have hlifetime := hissues.lifetime_eq_of_mem htoken
  have hself := registries_putRegistry_self bench r next
  have horigins := h.issues hr hissues
  have hslot : ∀ other found, (bench.putRegistry r next).registries other = some found →
      token.lifetime.origin = found.lifetime.origin → other = r ∧ found = next := by
    intro other found hfound horigin
    rw [hlifetime, ← hissues.lifetime_eq] at horigin
    obtain rfl := horigins.eq_of_origin_eq r next other found hself hfound horigin
    rw [hself] at hfound
    exact ⟨rfl, (Option.some.inj hfound).symm⟩
  constructor
  · rw [hlifetime]
    apply h.lt_nextOrigin r registry hr
  · intro other found hfound horigin
    obtain ⟨rfl, rfl⟩ := hslot other found hfound horigin
    rw [hlifetime, hissues.lifetime_eq]
  · intro other found hfound hsame
    obtain ⟨rfl, rfl⟩ := hslot other found hfound (congrArg Lifetime.origin hsame)
    apply Ledger.mem_issued_note.mpr
    right
    use rfl

/-- Issuing tokens keeps the agreement when the tokens are noted. -/
theorem Accounts.issues (h : bench.Accounts ledger) {next : Registry}
    (hr : bench.registries r = some registry) (hissues : registry.Issues tokens next) :
  (bench.putRegistry r next).Accounts (ledger.note r tokens)
  := by
  constructor
  · apply List.nodup_append.mpr
    use h.nodup, hissues.nodup
    rintro token hold _ hnew rfl
    have hissued := (h.isPast token hold).mem_issued r registry hr
      (hissues.lifetime_eq_of_mem hnew)
    have hknown := h.contains_of_issued r registry hr token hissued
    rw [hissues.not_contains_of_mem hnew] at hknown
    contradiction
  · apply h.hasOrigins.issues hr hissues
  · intro token htoken
    obtain hold | hnew := List.mem_append.mp htoken
    · exact (h.isPast token hold).issues hr hissues
    · apply isPast_of_issues h.hasOrigins hr hissues hnew
  · intro other token htoken
    obtain hold | ⟨-, hnew⟩ := Ledger.mem_issued_note.mp htoken
    · apply List.mem_append_left tokens (h.mem_handed_of_issued other token hold)
    · apply List.mem_append_right _ hnew
  · intro other found hfound token htoken
    obtain ⟨rfl, rfl⟩ | ⟨hother, hfound⟩ := of_registries_putRegistry hfound
    · obtain hold | ⟨-, hnew⟩ := Ledger.mem_issued_note.mp htoken
      · apply hissues.contains_of_contains
        apply h.contains_of_issued other registry hr token hold
      · apply hissues.contains_of_mem hnew
    · obtain hold | ⟨hsame, -⟩ := Ledger.mem_issued_note.mp htoken
      · apply h.contains_of_issued other found hfound token hold
      · contradiction
  · intro token hshows
    apply List.mem_append_left tokens (h.mem_handed_of_shows token hshows)

/-! ### Beginning a lifetime -/

/-- The lifetime of the registry is later than all others of the same origin, and only the
registry in the slot may have had one. -/
structure Begins (bench : Workbench) (ledger : Ledger) (r : String) (next : Registry)
    (nextOrigin : Nat) : Prop where
  nextOrigin_le : bench.nextOrigin ≤ nextOrigin
  lt_nextOrigin : next.lifetime.origin < nextOrigin
  eq_of_origin_eq : ∀ other found, bench.registries other = some found →
    found.lifetime.origin = next.lifetime.origin → other = r
  epoch_lt : ∀ token ∈ ledger.handed, token.lifetime.origin = next.lifetime.origin →
    token.lifetime.epoch < next.lifetime.epoch

/-- A registry with a new origin begins a lifetime in any slot. -/
theorem Accounts.begins_of_new (h : bench.Accounts ledger) (r : String) {next : Registry}
    (hnext : next.lifetime.origin = bench.nextOrigin) :
  bench.Begins ledger r next (bench.nextOrigin + 1)
  := by
  constructor
  · apply Nat.le_succ _
  · rw [hnext]
    apply Nat.lt_succ_self _
  · intro other found hfound horigin
    have hlt := h.hasOrigins.lt_nextOrigin other found hfound
    rw [horigin, hnext] at hlt
    exact absurd hlt (Nat.lt_irrefl _)
  · intro token htoken horigin
    have hlt := (h.isPast token htoken).lt_nextOrigin
    rw [horigin, hnext] at hlt
    exact absurd hlt (Nat.lt_irrefl _)

/-- A registry that is reset begins a lifetime in its slot. -/
theorem Accounts.begins_of_reset (h : bench.Accounts ledger)
    (hr : bench.registries r = some registry) :
  bench.Begins ledger r (Registry.reset registry).1 bench.nextOrigin
  := by
  constructor
  · apply Nat.le_refl _
  · apply h.hasOrigins.lt_nextOrigin r registry hr
  · intro other found hfound horigin
    apply h.hasOrigins.eq_of_origin_eq other found r registry hfound hr horigin
  · intro token htoken horigin
    apply Nat.lt_succ_of_le ((h.isPast token htoken).epoch_le r registry hr horigin)

theorem Begins.hasOrigins {next : Registry} {nextOrigin : Nat}
    (hbegins : bench.Begins ledger r next nextOrigin) (h : bench.HasOrigins) :
  HasOrigins ({ bench with nextOrigin := nextOrigin }.putRegistry r next)
  := by
  constructor
  · intro other found hfound
    obtain ⟨-, rfl⟩ | ⟨-, hfound⟩ := of_registries_putRegistry hfound
    · apply hbegins.lt_nextOrigin
    · apply Nat.lt_of_lt_of_le (h.lt_nextOrigin other found hfound) hbegins.nextOrigin_le
  · intro other found other' found' hfound hfound' horigin
    obtain ⟨rfl, rfl⟩ | ⟨-, hold⟩ := of_registries_putRegistry hfound
    · obtain ⟨rfl, rfl⟩ | ⟨-, hfound'⟩ := of_registries_putRegistry hfound'
      · rfl
      · exact (hbegins.eq_of_origin_eq other' found' hfound' horigin.symm).symm
    · obtain ⟨rfl, rfl⟩ | ⟨-, hfound'⟩ := of_registries_putRegistry hfound'
      · apply hbegins.eq_of_origin_eq other found hold horigin
      · apply h.eq_of_origin_eq other found other' found' hold hfound' horigin

theorem Begins.isPast {next : Registry} {nextOrigin : Nat}
    (hbegins : bench.Begins ledger r next nextOrigin) {token : Token}
    (htoken : token ∈ ledger.handed) (h : bench.IsPast ledger token) :
  IsPast ({ bench with nextOrigin := nextOrigin }.putRegistry r next) (ledger.renew r) token
  := by
  constructor
  · apply Nat.lt_of_lt_of_le h.lt_nextOrigin hbegins.nextOrigin_le
  · intro other found hfound horigin
    obtain ⟨-, rfl⟩ | ⟨-, hfound⟩ := of_registries_putRegistry hfound
    · apply Nat.le_of_lt (hbegins.epoch_lt token htoken horigin)
    · apply h.epoch_le other found hfound horigin
  · intro other found hfound hsame
    obtain ⟨-, rfl⟩ | ⟨hne, hfound⟩ := of_registries_putRegistry hfound
    · have hlt := hbegins.epoch_lt token htoken (congrArg Lifetime.origin hsame)
      rw [hsame] at hlt
      exact absurd hlt (Nat.lt_irrefl _)
    · apply Ledger.mem_issued_renew.mpr
      use hne, h.mem_issued other found hfound hsame

/-- Beginning a lifetime keeps the agreement when it is noted. -/
theorem Accounts.begins (h : bench.Accounts ledger) {next : Registry} {nextOrigin : Nat}
    (hbegins : bench.Begins ledger r next nextOrigin) :
  Accounts ({ bench with nextOrigin := nextOrigin }.putRegistry r next) (ledger.renew r)
  := by
  constructor
  · apply h.nodup
  · apply hbegins.hasOrigins h.hasOrigins
  · intro token htoken
    apply hbegins.isPast htoken (h.isPast token htoken)
  · intro other token htoken
    obtain ⟨-, hissued⟩ := Ledger.mem_issued_renew.mp htoken
    apply h.mem_handed_of_issued other token hissued
  · intro other found hfound token htoken
    obtain ⟨hother, hissued⟩ := Ledger.mem_issued_renew.mp htoken
    obtain ⟨hsame, -⟩ | ⟨-, hfound⟩ := of_registries_putRegistry hfound
    · contradiction
    · apply h.contains_of_issued other found hfound token hissued
  · apply h.mem_handed_of_shows

end Workbench

end BoundSql
