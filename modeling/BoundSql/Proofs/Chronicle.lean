import BoundSql.Proofs.Refusal

/-!
# Chronicles

A `Chronicle` of a workbench divides its history into eras: one begins whenever a registry is
created, copied or reset.  It notes for each slot the era in which the registry in it has
begun, and for each fragment the arguments that it holds, each with the era of the registry
that it was set with.  It does so by what the commands answer and knows nothing of tokens.

`Workbench.Effect` lists all that a command can do to a workbench and its chronicle.  What a run
keeps of the two has to be shown for these effects only (`Workbench.effect_step`).
-/

namespace BoundSql

open Stateful

/-! ### Eras and holdings -/

/-- Arguments that a fragment holds, and the era of the registry that it was set with. -/
structure Holding where
  clause : Clause
  args : clause.Args
  era : Nat

/-- The literals of a holding; a query has all of its values. -/
def Holding.literals (holding : Holding) : List Value :=
  holding.clause.supplied Query.values holding.args

/-- How many eras there have been, in which of them the registry in a slot has begun, and what
the fragment in a slot holds. -/
structure Chronicle where
  count : Nat
  begun : String → Nat
  held : String → List Holding

namespace Chronicle

/-- The chronicle before the first era. -/
def empty : Chronicle := ⟨0, fun _ => 0, fun _ => []⟩

/-- Begins an era with the registry in a slot. -/
def renew (chronicle : Chronicle) (r : String) : Chronicle where
  count := chronicle.count + 1
  begun other := if other = r then chronicle.count else chronicle.begun other
  held := chronicle.held

/-- Exchanges what the fragment in a slot holds. -/
def hold (chronicle : Chronicle) (f : String) (holdings : List Holding) : Chronicle :=
  { chronicle with held := fun other => if other = f then holdings else chronicle.held other }

/-- The chronicle after a command on a workbench that is answered with the given result.
Arguments are held only if they are accepted. -/
def answered (chronicle : Chronicle) (bench : Workbench) :
    Command → Except Error Answer → Chronicle
  | .new r _, _ | .copy _ r, _ | .reset r, _ => chronicle.renew r
  | .fragment f _ _, _ | .clear f, _ => chronicle.hold f []
  | .set f r clause (some args), .ok _ =>
    match bench.fragments f with
    | none => chronicle
    | some held =>
      chronicle.hold f (held.arity.keep (chronicle.held f) ⟨clause, args, chronicle.begun r⟩)
  | .set f _ _ none, .ok _ => chronicle.hold f []
  | _, _ => chronicle

/-- The chronicle after a command on a workbench, which has no effect if it names an empty
slot. -/
def after (chronicle : Chronicle) (bench : Workbench) (command : Command) : Chronicle :=
  match (bench.step command).2 with
  | none => chronicle
  | some answer => chronicle.answered bench command answer.result

/-- The chronicle after commands on a workbench. -/
def along (chronicle : Chronicle) (bench : Workbench) : List Command → Chronicle
  | [] => chronicle
  | command :: commands => (chronicle.after bench command).along (bench.step command).1 commands

theorem after_eq_self {chronicle : Chronicle} {bench : Workbench} {command : Command}
    (h : ∀ result, chronicle.answered bench command result = chronicle) :
  chronicle.after bench command = chronicle
  := by
  rw [after]
  split
  · rfl
  · apply h

theorem held_hold_self (chronicle : Chronicle) (f : String) (holdings : List Holding) :
  (chronicle.hold f holdings).held f = holdings
  := if_pos rfl

theorem held_hold_of_ne (chronicle : Chronicle) {f other : String} (holdings : List Holding)
    (h : other ≠ f) :
  (chronicle.hold f holdings).held other = chronicle.held other
  := if_neg h

theorem begun_renew_self (chronicle : Chronicle) (r : String) :
  (chronicle.renew r).begun r = chronicle.count
  := if_pos rfl

theorem begun_renew_of_ne (chronicle : Chronicle) {r other : String} (h : other ≠ r) :
  (chronicle.renew r).begun other = chronicle.begun other
  := if_neg h

end Chronicle

/-! ### What a command does -/

/-- A registry after an operation within its lifetime, which forgets nothing. -/
structure Registry.Continues (registry after : Registry) : Prop where
  lifetime_eq : after.lifetime = registry.lifetime
  remembers : registry.Remembers after

namespace Workbench

variable {bench changed : Workbench} {chronicle : Chronicle} {registry : Registry}
  {command : Command} {r f : String}

/-- What a command makes of a workbench and its chronicle.  Both stay; a registry goes on in its
era, and tokens are put into slots; an era begins with a registry that is created or reset; or a
fragment is emptied, or set and the chronicle notes what it holds. -/
inductive Effect (bench : Workbench) (chronicle : Chronicle) : Workbench → Chronicle → Prop where
  | stays : Effect bench chronicle bench chronicle
  | goesOn {r : String} {registry after : Registry} (hr : bench.registries r = some registry)
    (hafter : registry.Continues after) (tokens : Slots Token) :
    Effect bench chronicle { bench.putRegistry r after with tokens := tokens } chronicle
  | creates (r : String) {registry : Registry}
    (horigin : registry.lifetime.origin = bench.nextOrigin) :
    Effect bench chronicle
      ({ bench with nextOrigin := bench.nextOrigin + 1 }.putRegistry r registry)
      (chronicle.renew r)
  | resets {r : String} {registry : Registry} (hr : bench.registries r = some registry) :
    Effect bench chronicle (bench.putRegistry r (Registry.reset registry).1) (chronicle.renew r)
  | empties (f : String) {held : HeldFragment} (hitems : held.fragment.items = []) :
    Effect bench chronicle (bench.putFragment f held) (chronicle.hold f [])
  | sets {f r : String} {held : HeldFragment} {registry after : Registry}
    {args : held.clause.Args} {fragment : Fragment held.clause held.arity}
    (hf : bench.fragments f = some held) (hr : bench.registries r = some registry)
    (hset : Succeeds (held.fragment.set (some args)) registry fragment after) :
    Effect bench chronicle
      ((bench.putRegistry r after).putFragment f ⟨held.clause, held.arity, fragment⟩)
      (chronicle.hold f
        (held.arity.keep (chronicle.held f) ⟨held.clause, args, chronicle.begun r⟩))

/-- Exchanging a fragment together with what it holds. -/
theorem forall₂_putFragment {R : (clause : Clause) → clause.Form Token → Holding → Prop}
    (h : ∀ f held, bench.fragments f = some held →
      List.Forall₂ (R held.clause) held.fragment.items (chronicle.held f))
    {held : HeldFragment} {holdings : List Holding}
    (hheld : List.Forall₂ (R held.clause) held.fragment.items holdings) :
  ∀ other found, (bench.putFragment f held).fragments other = some found →
    List.Forall₂ (R found.clause) found.fragment.items ((chronicle.hold f holdings).held other)
  := by
  intro other found hfound
  by_cases hother : other = f
  · subst hother
    obtain rfl := Option.some.inj ((Slots.put_self bench.fragments other held).symm.trans hfound)
    rw [Chronicle.held_hold_self]
    exact hheld
  · have hold := (Slots.put_of_ne hother).symm.trans hfound
    rw [chronicle.held_hold_of_ne holdings hother]
    exact h other found hold

/-- A command that names an empty slot has no effect. -/
theorem effect_of_perform_eq_none (hnone : bench.perform command = none) :
  bench.Effect chronicle (bench.step command).1 (chronicle.after bench command)
  := by
  rw [Chronicle.after, step, hnone]
  exact .stays

/-- The effect of a command that is answered. -/
theorem effect_of_perform_eq_some {answer : Traced Answer}
    (hsome : bench.perform command = some (changed, answer))
    (h : bench.Effect chronicle changed (chronicle.answered bench command answer.result)) :
  bench.Effect chronicle (bench.step command).1 (chronicle.after bench command)
  := by
  rw [Chronicle.after, step, hsome]
  exact h

/-- The effect of a command that changes a registry within its lifetime. -/
theorem effect_onRegistry {α : Type} (bench : Workbench) (chronicle : Chronicle) (r : String)
    {x : Stateful Registry α} {finish : Workbench → α → Workbench × Answer}
    (hx : ∀ registry : Registry, registry.Continues (x registry).1)
    (hfinish : ∀ next a, ∃ tokens, (finish next a).1 = { next with tokens := tokens }) :
  bench.Effect chronicle (bench.orStay (bench.onRegistry r x finish)) chronicle
  := by
  apply of_onRegistry (P := fun changed => bench.Effect chronicle changed chronicle)
  · exact fun _ => .stays
  · exact fun registry hr => .goesOn hr (hx registry) bench.tokens
  · intro registry a after hr hsucceeds _
    obtain ⟨tokens, hchanged⟩ := hfinish (bench.putRegistry r after) a
    have hafter := hx registry
    rw [hsucceeds.1] at hafter
    rw [hchanged]
    exact .goesOn hr hafter tokens

theorem perform_copy (hr : bench.registries r = some registry) (target : String) :
  bench.perform (.copy r target)
    = some ({ bench with nextOrigin := bench.nextOrigin + 1 }.putRegistry target
      (registry.copy bench.nextOrigin), pure .done)
  := by
  rw [perform, hr]
  rfl

theorem perform_reset (hr : bench.registries r = some registry) :
  bench.perform (.reset r)
    = some (bench.putRegistry r (Registry.reset registry).1,
      ⟨(Registry.reset registry).2.events, .ok .done⟩)
  := by
  rw [perform, Workbench.onRegistry, hr]
  rfl

theorem perform_set {held : HeldFragment} (hf : bench.fragments f = some held)
    (hr : bench.registries r = some registry) (args : Option held.clause.Args) :
  bench.perform (.set f r held.clause args)
    = some (match held.fragment.set args registry with
      | (after, ⟨events, .ok fragment⟩) =>
        ((bench.putRegistry r after).putFragment f ⟨held.clause, held.arity, fragment⟩,
          ⟨events, .ok .done⟩)
      | (after, ⟨events, .error e⟩) => (bench.putRegistry r after, ⟨events, .error e⟩))
  := by
  have hrequest : held.set? held.clause args = some (held.fragment.set args) := dif_pos rfl
  rw [perform, setFragment, hf]
  simp only [Option.bind_eq_bind, Option.bind_some, hrequest, Workbench.onRegistry, hr]
  rcases held.fragment.set args registry with ⟨after, events, e | fragment⟩
  · rfl
  · rfl

theorem perform_set_eq_none {clause : Clause} {args : Option clause.Args}
    (h : ∀ held registry, bench.fragments f = some held → held.clause = clause →
      bench.registries r ≠ some registry) :
  bench.perform (.set f r clause args) = none
  := by
  rw [perform, setFragment]
  cases hf : bench.fragments f with
  | none => rfl
  | some held =>
    simp only [Option.bind_eq_bind, Option.bind_some]
    by_cases hclause : held.clause = clause
    · subst hclause
      have hrequest : held.set? held.clause args = some (held.fragment.set args) := dif_pos rfl
      have hnone : bench.registries r = none :=
        Option.eq_none_iff_forall_ne_some.mpr fun registry => h held registry hf rfl
      simp only [hrequest, Option.bind_some, Workbench.onRegistry, hnone]
      rfl
    · have hrequest : held.set? clause args = none := dif_neg hclause
      rw [hrequest]
      rfl

/-- Setting a fragment has no effect if a slot is empty, the clause is another one or the arguments
are refused. -/
theorem effect_set (bench : Workbench) (chronicle : Chronicle) (f r : String) (clause : Clause)
    (args : Option clause.Args) :
  bench.Effect chronicle (bench.step (.set f r clause args)).1
    (chronicle.after bench (.set f r clause args))
  := by
  by_cases hslots : ∃ held registry, bench.fragments f = some held ∧ held.clause = clause
      ∧ bench.registries r = some registry
  · obtain ⟨held, registry, hf, rfl, hr⟩ := hslots
    have hsome := perform_set hf hr args
    rcases hset : held.fragment.set args registry with ⟨after, events, e | fragment⟩
    · have hfails : Fails (held.fragment.set args) registry e after := by
        rw [Fails, hset]
        exact ⟨rfl, rfl⟩
      simp only [hset, Fragment.of_fails_set hfails, putRegistry_eq_self hr] at hsome
      apply effect_of_perform_eq_some hsome
      cases args with
      | none => exact .stays
      | some args => exact .stays
    · have hsucceeds : Succeeds (held.fragment.set args) registry fragment after := by
        rw [Succeeds, hset]
        exact ⟨rfl, rfl⟩
      rw [hset] at hsome
      apply effect_of_perform_eq_some hsome
      cases args with
      | none =>
        obtain ⟨rfl, hitems⟩ := Fragment.of_succeeds_set_none hsucceeds
        rw [putRegistry_eq_self hr]
        exact .empties f hitems
      | some args =>
        simp only [Chronicle.answered, hf]
        exact .sets hf hr hsucceeds
  · apply effect_of_perform_eq_none
    apply perform_set_eq_none
    exact fun held registry hf hclause hr => hslots ⟨held, registry, hf, hclause, hr⟩

/-- Every command has one of the effects. -/
theorem effect_step (bench : Workbench) (chronicle : Chronicle) (command : Command) :
  bench.Effect chronicle (bench.step command).1 (chronicle.after bench command)
  := by
  cases command with
  | new r config => exact .creates r rfl
  | copy r target =>
    cases hr : bench.registries r with
    | none =>
      apply effect_of_perform_eq_none
      rw [perform, hr]
      rfl
    | some registry =>
      exact effect_of_perform_eq_some (perform_copy hr target) (.creates target rfl)
  | reset r =>
    cases hr : bench.registries r with
    | none =>
      apply effect_of_perform_eq_none
      rw [perform, Workbench.onRegistry, hr]
      rfl
    | some registry => exact effect_of_perform_eq_some (perform_reset hr) (.resets hr)
  | allocate r value p =>
    rw [Chronicle.after_eq_self fun _ => rfl, fst_step, perform, issue]
    apply effect_onRegistry
    · exact fun registry => ⟨(registry.issues_issue (some value)).lifetime_eq,
        (Registry.Grows.issue (some value)).remembers registry⟩
    · exact fun _ _ => ⟨_, rfl⟩
  | reserve r p =>
    rw [Chronicle.after_eq_self fun _ => rfl, fst_step, perform, issue]
    apply effect_onRegistry
    · exact fun registry => ⟨(registry.issues_issue none).lifetime_eq,
        (Registry.Grows.issue none).remembers registry⟩
    · exact fun _ _ => ⟨_, rfl⟩
  | fill r value count =>
    rw [Chronicle.after_eq_self fun _ => rfl, fst_step, perform]
    apply effect_onRegistry
    · exact fun registry => ⟨(registry.issues_fill value count).lifetime_eq,
        Registry.remembers_fillFrom value count registry _ _⟩
    · exact fun next _ => ⟨next.tokens, rfl⟩
  | absorb r query ps =>
    rw [Chronicle.after_eq_self fun _ => rfl, fst_step, perform]
    apply effect_onRegistry
    · exact fun registry => ⟨(registry.issues_absorb query).lifetime_eq,
        (Registry.Grows.absorb query).remembers registry⟩
    · exact fun _ _ => ⟨_, rfl⟩
  | bind r p value =>
    rw [Chronicle.after_eq_self fun _ => rfl, fst_step, perform]
    cases bench.tokens p with
    | none => exact .stays
    | some token =>
      simp only [Option.bind_eq_bind, Option.bind_some]
      apply effect_onRegistry
      · exact fun registry => ⟨(registry.issues_bind token value).lifetime_eq,
          registry.remembers_bind token value⟩
      · exact fun next _ => ⟨next.tokens, rfl⟩
  | set f r clause args => exact bench.effect_set chronicle f r clause args
  | fragment f clause arity => exact .empties f Fragment.items_empty
  | clear f =>
    cases hf : bench.fragments f with
    | none =>
      apply effect_of_perform_eq_none
      rw [perform, hf]
      rfl
    | some held =>
      obtain ⟨events, cleared, hitems, hclear⟩ := exists_perform_clear hf
      exact effect_of_perform_eq_some hclear (.empties f hitems)
  | _ =>
    rw [Chronicle.after_eq_self fun _ => rfl, step_of_isQuestion]
    · exact .stays
    · trivial

end Workbench

end BoundSql
