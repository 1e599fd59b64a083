import BoundSql.Proofs.Provenance
import BoundSql.Proofs.Transition

/-!
# Refused calls

A call that answers an error leaves no trace.  `accepted` drops from a run all calls that are
refused; the calls that are left answer what they have answered before, and lead to the same
state (`refused_calls_leave_no_trace`).  On a workbench this is said of single calls: filling
a registry is a way to write the same allocation several times, and only the last of these
can be refused.
-/

namespace BoundSql

open Stateful

/-! ### Runs without their refused calls -/

section Runs

variable {σ κ ρ : Type}

/-- The calls that are not refused when calls are performed one after another. -/
def accepted (step : σ → κ → σ × ρ) (isRefused : ρ → Bool) (s : σ) : List κ → List κ
  | [] => []
  | call :: calls =>
    let (changed, reply) := step s call
    let rest := accepted step isRefused changed calls
    if isRefused reply then rest else call :: rest

/-- A run performs one step after another and collects the replies. -/
structure IsRun (step : σ → κ → σ × ρ) (run : σ → List κ → σ × List ρ) : Prop where
  nil (s : σ) : run s [] = (s, [])
  cons (s : σ) (call : κ) (calls : List κ) :
    run s (call :: calls)
      = ((run (step s call).1 calls).1, (step s call).2 :: (run (step s call).1 calls).2)

variable {step : σ → κ → σ × ρ} {run : σ → List κ → σ × List ρ}

theorem IsRun.fst_append (h : IsRun step run) (s : σ) (calls more : List κ) :
  (run s (calls ++ more)).1 = (run (run s calls).1 more).1
  := by
  induction calls generalizing s with
  | nil => rw [h.nil, List.nil_append]
  | cons call calls ih => rw [List.cons_append, h.cons, h.cons, ih]

/-- Where a refused call leaves the state, dropping the refused calls drops their replies and
nothing else. -/
theorem IsRun.accepted (h : IsRun step run) {isRefused : ρ → Bool} {calls : List κ}
    (hstays : ∀ call ∈ calls, ∀ s, isRefused (step s call).2 = true → (step s call).1 = s)
    (s : σ) :
  run s (accepted step isRefused s calls)
    = ((run s calls).1, (run s calls).2.filter fun reply => !isRefused reply)
  := by
  induction calls generalizing s with
  | nil =>
    rw [BoundSql.accepted, h.nil]
    rfl
  | cons call calls ih =>
    rw [List.forall_mem_cons] at hstays
    rw [BoundSql.accepted, h.cons s call calls]
    cases hrefused : isRefused (step s call).2 with
    | true =>
      have hstay := hstays.1 s hrefused
      simp only [hrefused, if_true, List.filter_cons, Bool.not_true, Bool.false_eq_true,
        if_false]
      rw [hstay]
      apply ih hstays.2
    | false =>
      simp only [hrefused, Bool.false_eq_true, if_false, List.filter_cons, Bool.not_false,
        if_true]
      rw [h.cons, ih hstays.2]

end Runs

/-- Decides whether a computation fails. -/
def Traced.isError {α : Type} (x : Traced α) : Bool :=
  match x.result with
  | .error _ => true
  | .ok _ => false

theorem Traced.isError_iff {α : Type} {x : Traced α} :
  x.isError = true ↔ ∃ e, x.result = .error e
  := by
  rw [isError]
  cases x.result with
  | error e => simp
  | ok a => simp

/-! ### Statements -/

namespace Statement

variable {grammar : Grammar}

/-- The calls on a statement that do not answer an error. -/
def accepted (statement : Statement grammar) (calls : List (Call grammar)) :
    List (Call grammar) :=
  BoundSql.accepted step Traced.isError statement calls

theorem isRun_run (grammar : Grammar) :
  IsRun (@step grammar) run
  := ⟨fun _ => rfl, fun _ _ _ => rfl⟩

/-- A call that answers an error leaves the statement. -/
theorem step_of_isError (statement : Statement grammar) (call : Call grammar)
    (h : (statement.step call).2.isError = true) :
  (statement.step call).1 = statement
  := by
  obtain ⟨e, he⟩ := Traced.isError_iff.mp h
  have htransition := transition_step statement call
  rw [he] at htransition
  generalize (statement.step call).1 = changed at htransition
  cases htransition with
  | refused field args e => rfl
  | asked call result hquestion => rfl

end Statement

/-! ### Workbenches -/

/-- The single calls that a command stands for. -/
def Command.single : Command → List Command
  | .fill r v count => List.replicate count (.allocate r v none)
  | command => [command]

theorem Command.single_fill_ne (r : String) (v : Value) (count : Nat) :
  (Command.fill r v count).single ≠ [.fill r v count]
  := by
  intro h
  have hmem : Command.fill r v count ∈ (Command.fill r v count).single := by
    rw [h]
    apply List.mem_singleton_self
  cases List.eq_of_mem_replicate hmem

/-- Single calls stand for themselves. -/
theorem Command.single_of_mem_single {commands : List Command} {call : Command}
    (h : call ∈ commands.flatMap Command.single) :
  call.single = [call]
  := by
  obtain ⟨command, -, hmem⟩ := List.mem_flatMap.mp h
  cases command with
  | fill r v count =>
    rw [List.eq_of_mem_replicate hmem]
    rfl
  | _ =>
    rw [List.mem_singleton.mp hmem]
    rfl

namespace Workbench

variable {bench : Workbench} {registry : Registry} {r : String}

/-- Decides whether a command answers an error. -/
def isRefused (answer : Option (Traced Answer)) : Bool := answer.any Traced.isError

/-- The commands on a workbench that do not answer an error. -/
def accepted (bench : Workbench) (commands : List Command) : List Command :=
  BoundSql.accepted step isRefused bench commands

theorem isRun_run :
  IsRun step run
  := ⟨fun _ => rfl, fun _ _ _ => rfl⟩

theorem putRegistry_eq_self (hr : bench.registries r = some registry) :
  bench.putRegistry r registry = bench
  := by
  have hslots : bench.registries.put r registry = bench.registries := by
    funext other
    by_cases hother : other = r
    · subst hother
      rw [Slots.put_self, hr]
    · rw [Slots.put_of_ne hother]
  rw [putRegistry, hslots]

theorem putRegistry_putRegistry (bench : Workbench) (r : String) (registry next : Registry) :
  (bench.putRegistry r registry).putRegistry r next = bench.putRegistry r next
  := by
  have hslots : (bench.registries.put r registry).put r next = bench.registries.put r next := by
    funext other
    by_cases hother : other = r
    · subst hother
      rw [Slots.put_self, Slots.put_self]
    · rw [Slots.put_of_ne hother, Slots.put_of_ne hother, Slots.put_of_ne hother]
  rw [putRegistry, putRegistry, putRegistry, hslots]

/-! ### Commands that may be refused -/

/-- If the answer is an error, the workbench is left as it was. -/
def Spares (bench : Workbench) (result : Option (Workbench × Traced Answer)) : Prop :=
  ∀ changed answer, result = some (changed, answer) → answer.isError = true → changed = bench

theorem spares_bind {α : Type} {x : Option α} {f : α → Option (Workbench × Traced Answer)}
    (hf : ∀ a, bench.Spares (f a)) :
  bench.Spares (x >>= f)
  := by
  intro changed answer h
  obtain ⟨a, -, ha⟩ := Option.bind_eq_some_iff.mp h
  apply hf a changed answer ha

theorem spares_of_ok {changed : Workbench} {answer : Traced Answer}
    (h : answer.isError = false) :
  bench.Spares (some (changed, answer))
  := by
  intro _ _ hresult herror
  obtain ⟨-, rfl⟩ := Prod.mk.inj (Option.some.inj hresult)
  rw [h] at herror
  contradiction

/-- A computation on a registry is spared by a failure if the registry is. -/
theorem spares_onRegistry {α : Type} {x : Stateful Registry α}
    {finish : Workbench → α → Workbench × Answer}
    (hfails : ∀ registry e changed, Fails x registry e changed → changed = registry) :
  bench.Spares (bench.onRegistry r x finish)
  := by
  intro changed answer h herror
  rw [onRegistry] at h
  obtain ⟨registry, hr, hrest⟩ := Option.bind_eq_some_iff.mp h
  rcases hx : x registry with ⟨next, events, e | a⟩
  · have hnext : next = registry :=
      hfails registry e next ⟨congrArg Prod.fst hx, by rw [hx]⟩
    rw [hx] at hrest
    obtain ⟨rfl, -⟩ := Prod.mk.inj (Option.some.inj hrest)
    rw [hnext]
    apply putRegistry_eq_self hr
  · rw [hx] at hrest
    obtain ⟨-, rfl⟩ := Prod.mk.inj (Option.some.inj hrest)
    contradiction

theorem spares_set (f r : String) (clause : Clause) (args : Option clause.Args) :
  bench.Spares (bench.perform (.set f r clause args))
  := by
  apply spares_bind
  intro held
  cases hrequest : held.set? clause args with
  | none =>
    intro changed answer h
    contradiction
  | some request =>
    obtain ⟨args, rfl⟩ := of_set?_eq_some hrequest
    simp only [Option.bind_eq_bind, Option.bind_some]
    apply spares_onRegistry
    exact fun _ _ _ => Fragment.of_fails_set

theorem spares_clear (f : String) :
  bench.Spares (bench.perform (.clear f))
  := by
  apply spares_bind
  intro held
  split
  next => exact spares_of_ok rfl
  next =>
    rintro changed answer h -
    exact (Prod.mk.inj (Option.some.inj h)).1.symm

theorem spares_of_isQuestion {command : Command} (h : command.IsQuestion) :
  bench.Spares (bench.perform command)
  := by
  rintro changed answer hresult -
  have hstep := step_of_isQuestion bench h
  rwa [fst_step, hresult] at hstep

/-- A single call that answers an error leaves the workbench. -/
theorem spares_perform {command : Command} (hsingle : command.single = [command]) :
  bench.Spares (bench.perform command)
  := by
  cases command with
  | new r config => exact spares_of_ok rfl
  | copy r target => exact spares_bind fun registry => spares_of_ok rfl
  | allocate | reserve =>
    rw [perform, issue]
    apply spares_onRegistry
    exact fun _ _ _ => Registry.of_fails_issue
  | fill r value count => exact absurd hsingle (Command.single_fill_ne r value count)
  | bind r p value =>
    apply spares_bind
    intro token
    apply spares_onRegistry
    exact fun _ _ _ => Registry.of_fails_bind
  | reset r =>
    rw [perform]
    apply spares_onRegistry
    rintro registry e changed ⟨-, hresult⟩
    contradiction
  | absorb r query ps =>
    rw [perform]
    apply spares_onRegistry
    exact fun _ _ _ => Registry.of_fails_absorb
  | fragment f clause arity => exact spares_of_ok rfl
  | set f r clause args => exact spares_set f r clause args
  | clear f => exact spares_clear f
  | _ => exact spares_of_isQuestion trivial

theorem step_of_isRefused {command : Command} (hsingle : command.single = [command])
    (bench : Workbench) (h : isRefused (bench.step command).2 = true) :
  (bench.step command).1 = bench
  := by
  rw [step] at h ⊢
  cases hresult : bench.perform command with
  | none => rfl
  | some result =>
    obtain ⟨changed, answer⟩ := result
    rw [hresult] at h
    exact spares_perform hsingle changed answer hresult h

/-! ### Filling a registry -/

theorem perform_allocate_of_registry (hr : bench.registries r = some registry) (value : Value) :
  (bench.step (.allocate r value none)).1
    = bench.putRegistry r (Registry.allocate value registry).1
  := by
  rw [fst_step, perform, issue, onRegistry, hr]
  rcases hx : Registry.allocate value registry with ⟨changed, events, e | token⟩
  · simp [orStay, hx]
  · simp [orStay, hx, Slots.putIn?]

theorem fst_fillFrom_of_error {e : Error} (h : registry.nextToken = .error e) (value : Value)
    (count : Nat) (last : Option Token) (events : List Event) :
  (Registry.fillFrom value count registry last events).1 = registry
  := by
  cases count with
  | zero => rfl
  | succ count => rw [Registry.fillFrom, h]

/-- Allocating the same value several times leaves the registry as filling it does. -/
theorem fst_run_replicate_allocate (hr : bench.registries r = some registry) (value : Value)
    (count : Nat) (last : Option Token) (events : List Event) :
  (bench.run (List.replicate count (.allocate r value none))).1
    = bench.putRegistry r (Registry.fillFrom value count registry last events).1
  := by
  induction count generalizing bench registry last events with
  | zero => exact (putRegistry_eq_self hr).symm
  | succ count ih =>
    rw [List.replicate_succ, isRun_run.cons, perform_allocate_of_registry hr]
    cases hnext : registry.nextToken with
    | error e =>
      have hfails : Fails (Registry.allocate value) registry e registry := by
        rw [Registry.allocate, Fails, Registry.issue, hnext]
        exact ⟨rfl, rfl⟩
      rw [hfails.1, putRegistry_eq_self hr, ih hr last events, fst_fillFrom_of_error hnext,
        fst_fillFrom_of_error hnext]
    | ok token =>
      have hsucceeds : (Registry.allocate value registry).1 = registry.extend (some value) := by
        rw [Registry.allocate, Registry.issue, hnext]
      rw [hsucceeds, ih (registries_putRegistry_self bench r _) (some token)
        (Registry.issuedEvent token :: events), putRegistry_putRegistry, Registry.fillFrom, hnext]

theorem fst_run_replicate_of_none (hr : bench.registries r = none) (value : Value)
    (count : Nat) :
  (bench.run (List.replicate count (.allocate r value none))).1 = bench
  := by
  have hstep : (bench.step (.allocate r value none)).1 = bench := by
    rw [fst_step, perform, issue, onRegistry, hr]
    rfl
  induction count with
  | zero => rfl
  | succ count ih => rw [List.replicate_succ, isRun_run.cons, hstep, ih]

/-- The single calls that a command stands for leave the workbench as the command does. -/
theorem fst_run_single (bench : Workbench) (command : Command) :
  (bench.run command.single).1 = (bench.step command).1
  := by
  cases command with
  | fill r value count =>
    rw [Command.single]
    cases hr : bench.registries r with
    | none =>
      rw [fst_run_replicate_of_none hr, fst_step, perform, onRegistry, hr]
      rfl
    | some registry =>
      rw [fst_run_replicate_allocate hr value count none [], fst_step, perform, onRegistry, hr]
      show bench.putRegistry r (Registry.fill value count registry).1 = _
      rcases hx : Registry.fill value count registry with ⟨changed, events, e | last⟩
      · simp [orStay, hx]
      · simp [orStay, hx]
  | _ => rfl

theorem fst_run_flatMap_single (bench : Workbench) (commands : List Command) :
  (bench.run (commands.flatMap Command.single)).1 = (bench.run commands).1
  := by
  induction commands generalizing bench with
  | nil => rfl
  | cons command commands ih =>
    rw [List.flatMap_cons, isRun_run.fst_append, fst_run_single, ih, isRun_run.cons]

end Workbench

/-- Refused calls leave no trace.  Dropping from a run all calls that answer an error leaves
the final state as it is, with every registry, every token and every fragment, and drops
nothing but their answers from the answers: so it is for the single calls that commands on a
workbench stand for, and for the calls on a statement of any grammar. -/
theorem refused_calls_leave_no_trace :
  (∀ (bench : Workbench) (commands : List Command),
    let calls := commands.flatMap Command.single
    (bench.run calls).1 = (bench.run commands).1
      ∧ bench.run (bench.accepted calls)
        = ((bench.run calls).1,
          (bench.run calls).2.filter fun answer => !Workbench.isRefused answer))
  ∧ ∀ (grammar : Grammar) (statement : Statement grammar) (calls : List (Call grammar)),
    statement.run (statement.accepted calls)
      = ((statement.run calls).1, (statement.run calls).2.filter fun reply => !reply.isError)
  := by
  constructor
  · intro bench commands calls
    use bench.fst_run_flatMap_single commands
    apply Workbench.isRun_run.accepted
    intro call hcall
    apply Workbench.step_of_isRefused (Command.single_of_mem_single hcall)
  · intro grammar statement calls
    apply (Statement.isRun_run grammar).accepted
    exact fun call _ s => s.step_of_isError call

end BoundSql
