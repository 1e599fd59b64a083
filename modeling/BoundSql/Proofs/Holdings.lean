import BoundSql.Proofs.Chronicle
import BoundSql.Proofs.Retrieval

/-!
# What the fragments of a workbench hold

A fragment holds the arguments that it has accepted since it was cleared last: its forms are the
checked forms of the holdings that the chronicle notes for it, in order, and every registry that
is still in the era of a holding knows the literals by the tokens of the form.  It is so after
every run of commands (`Workbench.Keeps.run`), because registries forget nothing within an era
(`Registry.Continues`).
-/

namespace BoundSql

open Stateful

/-! ### What fragments hold -/

/-- A form is what a fragment holds of arguments: it is their checked form, but for the tokens, by
which every registry that is still in the era of the holding knows the literals. -/
inductive Holding.IsKept (bench : Workbench) (chronicle : Chronicle) (clause : Clause)
    (form : clause.Form Token) : Holding → Prop where
  | mk {args : clause.Args} {era : Nat} (lt_count : era < chronicle.count)
    (exists_checked : ∃ checked, clause.check args = .ok checked
      ∧ clause.traversal.shape form = clause.traversal.shape checked)
    (isKept : ∀ r registry, bench.registries r = some registry → chronicle.begun r = era →
      clause.IsKept registry form args) : IsKept bench chronicle clause form ⟨clause, args, era⟩

namespace Workbench

variable {bench changed : Workbench} {chronicle next : Chronicle} {registry after : Registry}
  {r f : String}

/-- No two registries are in the same era. -/
structure HasEras (bench : Workbench) (chronicle : Chronicle) : Prop where
  begun_lt : ∀ r registry, bench.registries r = some registry →
    chronicle.begun r < chronicle.count
  eq_of_begun_eq : ∀ r registry, bench.registries r = some registry →
    ∀ other found, bench.registries other = some found →
      chronicle.begun other = chronicle.begun r → other = r

/-- The fragments of a workbench hold what the chronicle notes for them. -/
structure Keeps (bench : Workbench) (chronicle : Chronicle) : Prop where
  hasEras : bench.HasEras chronicle
  forall₂_isKept : ∀ f held, bench.fragments f = some held →
    List.Forall₂ (Holding.IsKept bench chronicle held.clause) held.fragment.items
      (chronicle.held f)

theorem keeps_empty :
  empty.Keeps Chronicle.empty
  := by
  constructor
  · exact ⟨nofun, nofun⟩
  · exact nofun

/-- Each registry of the changed workbench has begun a new era, or is in the era of one before
that it remembers. -/
structure Carries (bench changed : Workbench) (chronicle next : Chronicle) : Prop where
  count_le : chronicle.count ≤ next.count
  hasEras : changed.HasEras next
  remembers : ∀ r registry, changed.registries r = some registry →
    next.begun r < chronicle.count →
    chronicle.begun r = next.begun r
      ∧ ∃ before, bench.registries r = some before ∧ before.Remembers registry

/-- What is kept is kept through such a change. -/
theorem Carries.isKept (h : bench.Carries changed chronicle next) {clause : Clause}
    {form : clause.Form Token} {holding : Holding}
    (hkept : holding.IsKept bench chronicle clause form) :
  holding.IsKept changed next clause form
  := by
  obtain ⟨hcount, hchecked, hkept⟩ := hkept
  refine ⟨Nat.lt_of_lt_of_le hcount h.count_le, hchecked, ?_⟩
  rintro r registry hr rfl
  obtain ⟨hbegun, before, hbefore, hremembers⟩ := h.remembers r registry hr hcount
  exact (hkept r before hbefore hbegun).remembers hremembers

/-- Where the fragments and what they hold stay, only the registries have to be looked at. -/
theorem Keeps.of_carries (h : bench.Keeps chronicle)
    (hcarries : bench.Carries changed chronicle next)
    (hfragments : changed.fragments = bench.fragments) (hheld : next.held = chronicle.held) :
  changed.Keeps next
  := by
  use hcarries.hasEras
  intro f held hf
  rw [hfragments] at hf
  rw [hheld]
  exact (h.forall₂_isKept f held hf).imp fun form holding => hcarries.isKept

theorem HasEras.putRegistry (h : bench.HasEras chronicle)
    (hr : bench.registries r = some registry) (after : Registry) :
  (bench.putRegistry r after).HasEras chronicle
  := by
  have hslots : ∀ other found, (bench.putRegistry r after).registries other = some found →
      ∃ before, bench.registries other = some before := by
    intro other found hfound
    obtain ⟨rfl, -⟩ | ⟨-, hold⟩ := of_registries_putRegistry hfound
    · exact ⟨registry, hr⟩
    · exact ⟨found, hold⟩
  constructor
  · intro other found hfound
    obtain ⟨before, hbefore⟩ := hslots other found hfound
    exact h.begun_lt other before hbefore
  · intro first found hfound second found' hfound'
    obtain ⟨before, hbefore⟩ := hslots first found hfound
    obtain ⟨before', hbefore'⟩ := hslots second found' hfound'
    exact h.eq_of_begun_eq first before hbefore second before' hbefore'

/-- A registry that changes within its era. -/
theorem Keeps.carries_putRegistry (h : bench.Keeps chronicle)
    (hr : bench.registries r = some registry) (hremembers : registry.Remembers after) :
  bench.Carries (bench.putRegistry r after) chronicle chronicle
  := by
  constructor
  · exact Nat.le_refl _
  · exact h.hasEras.putRegistry hr after
  · intro other found hfound _
    use rfl
    obtain ⟨rfl, rfl⟩ | ⟨-, hold⟩ := of_registries_putRegistry hfound
    · exact ⟨registry, hr, hremembers⟩
    · exact ⟨found, hold, Registry.Remembers.refl found⟩

/-- The era that begins with a registry is later than all others. -/
theorem HasEras.renew (h : bench.HasEras chronicle) (r : String) (registry : Registry)
    (nextOrigin : Nat) :
  HasEras ({ bench with nextOrigin := nextOrigin }.putRegistry r registry) (chronicle.renew r)
  := by
  have hslots : ∀ other found,
      ({ bench with nextOrigin := nextOrigin }.putRegistry r registry).registries other
        = some found →
      (other = r ∧ (chronicle.renew r).begun other = chronicle.count)
        ∨ ((chronicle.renew r).begun other = chronicle.begun other
          ∧ bench.registries other = some found ∧ chronicle.begun other < chronicle.count) := by
    intro other found hfound
    obtain ⟨rfl, -⟩ | ⟨hother, hold⟩ := of_registries_putRegistry hfound
    · exact Or.inl ⟨rfl, chronicle.begun_renew_self other⟩
    · exact Or.inr ⟨chronicle.begun_renew_of_ne hother, hold, h.begun_lt other found hold⟩
  constructor
  · intro other found hfound
    show _ < chronicle.count + 1
    obtain ⟨-, hbegun⟩ | ⟨hbegun, -, hlt⟩ := hslots other found hfound
    · omega
    · omega
  · intro first found hfound second found' hfound' heq
    obtain ⟨rfl, hbegun⟩ | ⟨hbegun, hold, hlt⟩ := hslots first found hfound
    · obtain ⟨rfl, -⟩ | ⟨hbegun', -, hlt'⟩ := hslots second found' hfound'
      · rfl
      · omega
    · obtain ⟨rfl, hbegun'⟩ | ⟨hbegun', hold', -⟩ := hslots second found' hfound'
      · omega
      · rw [hbegun, hbegun'] at heq
        exact h.eq_of_begun_eq first found hold second found' hold' heq

/-- A registry that begins an era. -/
theorem Keeps.renew (h : bench.Keeps chronicle) (r : String) (registry : Registry)
    (nextOrigin : Nat) :
  Keeps ({ bench with nextOrigin := nextOrigin }.putRegistry r registry) (chronicle.renew r)
  := by
  refine h.of_carries ?_ rfl rfl
  constructor
  · exact Nat.le_succ _
  · exact h.hasEras.renew r registry nextOrigin
  · intro other found hfound hlt
    obtain ⟨rfl, -⟩ | ⟨hother, hold⟩ := of_registries_putRegistry hfound
    · rw [Chronicle.begun_renew_self] at hlt
      exact absurd hlt (Nat.lt_irrefl _)
    · rw [chronicle.begun_renew_of_ne hother]
      exact ⟨rfl, found, hold, Registry.Remembers.refl found⟩

/-- Exchanging a fragment together with what it holds. -/
theorem Keeps.putFragment (h : bench.Keeps chronicle) (f : String) {held : HeldFragment}
    {holdings : List Holding}
    (hheld : List.Forall₂ (Holding.IsKept bench chronicle held.clause) held.fragment.items
      holdings) :
  (bench.putFragment f held).Keeps (chronicle.hold f holdings)
  := by
  have hcarries : bench.Carries (bench.putFragment f held) chronicle
      (chronicle.hold f holdings) := by
    constructor
    · exact Nat.le_refl _
    · exact ⟨h.hasEras.begun_lt, h.hasEras.eq_of_begun_eq⟩
    · exact fun other found hfound _ => ⟨rfl, found, hfound, Registry.Remembers.refl found⟩
  use hcarries.hasEras
  apply forall₂_putFragment (R := Holding.IsKept _ _)
  · exact fun f held hf => (h.forall₂_isKept f held hf).imp fun form holding => hcarries.isKept
  · exact hheld.imp fun form holding => hcarries.isKept

/-! ### Steps and runs -/

/-- Accepted arguments become what the fragment holds. -/
theorem Keeps.of_succeeds_set (h : bench.Keeps chronicle) {held : HeldFragment}
    (hf : bench.fragments f = some held) (hr : bench.registries r = some registry)
    {args : held.clause.Args} {fragment : Fragment held.clause held.arity}
    (hset : Succeeds (held.fragment.set (some args)) registry fragment after) :
  Keeps ((bench.putRegistry r after).putFragment f ⟨held.clause, held.arity, fragment⟩)
    (chronicle.hold f
      (held.arity.keep (chronicle.held f) ⟨held.clause, args, chronicle.begun r⟩))
  := by
  have hremembers := (held.fragment.grows_set (some args)).remembers registry
  rw [hset.1] at hremembers
  have hput := h.of_carries (h.carries_putRegistry hr hremembers) rfl rfl
  apply hput.putFragment f
  obtain ⟨checked, form, hbound, hitems⟩ := Fragment.of_succeeds_set_some hset
  rw [hitems]
  apply Statement.forall₂_keep
  · exact hput.forall₂_isKept f held hf
  constructor
  · exact h.hasEras.begun_lt r registry hr
  · exact ⟨checked, hbound.check_eq, hbound.shape_eq⟩
  · intro other found hfound hbegun
    have hr' : (bench.putRegistry r after).registries r = some after :=
      Slots.put_self bench.registries r after
    obtain rfl := hput.hasEras.eq_of_begun_eq r after hr' other found hfound hbegun
    obtain rfl := Option.some.inj (hr'.symm.trans hfound)
    exact held.clause.isKept_isMade args _ _ _ _ hbound

/-- Every effect keeps the agreement of the fragments with what they hold. -/
theorem Keeps.of_effect (h : bench.Keeps chronicle)
    (heffect : bench.Effect chronicle changed next) :
  changed.Keeps next
  := by
  cases heffect with
  | stays => exact h
  | goesOn hr hafter tokens =>
    have hcarries := h.carries_putRegistry hr hafter.remembers
    -- what is in the slots for tokens does not matter
    exact h.of_carries { hcarries with hasEras := { hcarries.hasEras with } } rfl rfl
  | creates r horigin => exact h.renew r _ _
  | resets hr => exact h.renew _ _ _
  | empties f hitems =>
    apply h.putFragment f
    rw [hitems]
    exact List.Forall₂.nil
  | sets hf hr hset => exact h.of_succeeds_set hf hr hset

/-- After every run of commands, the fragments hold what the chronicle notes for them. -/
theorem Keeps.run (h : bench.Keeps chronicle) (commands : List Command) :
  (bench.run commands).1.Keeps (chronicle.along bench commands)
  := by
  induction commands generalizing bench chronicle with
  | nil => exact h
  | cons command commands ih => exact ih (h.of_effect (bench.effect_step chronicle command))

end Workbench

end BoundSql
