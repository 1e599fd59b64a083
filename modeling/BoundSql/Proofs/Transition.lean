import BoundSql.Proofs.Binding
import BoundSql.Statement

/-!
# Transitions of a statement

A call changes a statement in one of a few ways: a field is bound or cleared, the statement
is reset, or nothing changes because the call was refused or only asked a question.
`Statement.Transition` lists them with all that is known of the statement afterwards, and
every step is one (`Statement.transition_step`).
-/

namespace BoundSql

open Stateful

variable {grammar : Grammar}

namespace Call

/-- A call that asks a question does not change the statement. -/
def IsQuestion : Call grammar → Prop
  | .set _ _ | .reset => False
  | .get _ | .sql | .build | .values | .nextId => True

/-- The queries among the arguments of a call mark their tokens with the given sigil. -/
def UsesSigil (sigil : String) : Call grammar → Prop
  | .set field (some args) => (grammar.clause field).UsesSigil sigil args
  | _ => True

end Call

namespace Statement

/-- The ways in which a call changes a statement, with its result. -/
inductive Transition (statement : Statement grammar) :
    Call grammar → Except Error (Reply grammar) → Statement grammar → Prop where
  /-- A form is bound and kept. -/
  | bound (field : grammar.Field) (args : (grammar.clause field).Args)
      (checked : (grammar.clause field).Form Value) (form : (grammar.clause field).Form Token)
      (registry : Registry)
      (fragment : Fragment (grammar.clause field) (grammar.arity field))
      (hbound : (grammar.clause field).IsBound args statement.registry checked form registry)
      (hitems : fragment.items
        = (grammar.arity field).keep (statement.fragment field).items form) :
    Transition statement (.set field (some args)) (.ok .done)
      ({ statement with registry := registry }.put field fragment)
  /-- A field is cleared. -/
  | cleared (field : grammar.Field)
      (fragment : Fragment (grammar.clause field) (grammar.arity field))
      (hitems : fragment.items = []) :
    Transition statement (.set field none) (.ok .done) (statement.put field fragment)
  /-- Arguments are refused. -/
  | refused (field : grammar.Field) (args : Option (grammar.clause field).Args) (e : Error) :
    Transition statement (.set field args) (.error e) statement
  /-- The statement is reset. -/
  | reset :
    Transition statement .reset (.ok .done)
      ⟨(Registry.reset statement.registry).1,
        fun field => Fragment.empty (grammar.clause field) (grammar.arity field)⟩
  /-- A question is answered. -/
  | asked (call : Call grammar) (result : Except Error (Reply grammar))
      (hquestion : call.IsQuestion) :
    Transition statement call result statement

theorem step_set (statement : Statement grammar) (field : grammar.Field)
    (args : Option (grammar.clause field).Args) :
  (statement.step (.set field args)).1 = (set field args statement).1
    ∧ (statement.step (.set field args)).2.result
      = (set field args statement).2.result.map fun _ => .done
  := by
  have hstep : statement.step (.set field args) = ((fun _ => .done) <$> set field args) statement :=
    rfl
  rw [hstep, run_map]
  use rfl

theorem fst_ask_map {α : Type} (question : Statement grammar → Traced α) (f : α → Reply grammar)
    (statement : Statement grammar) :
  ((do
    let a ← ask question
    pure (f a)) statement).1 = statement
  := by
  have hmap : ((do
      let a ← ask question
      pure (f a)) statement) = (f <$> ask question) statement := rfl
  rw [hmap, run_map]
  rfl

theorem transition_set (statement : Statement grammar) (field : grammar.Field)
    (args : Option (grammar.clause field).Args) :
  Transition statement (.set field args) (statement.step (.set field args)).2.result
    (statement.step (.set field args)).1
  := by
  rw [(step_set statement field args).1, (step_set statement field args).2]
  rcases hset : (statement.fragment field).set args statement.registry with
    ⟨registry, events, e | fragment⟩
  · have hregistry : registry = statement.registry :=
      Fragment.of_fails_set (e := e) ⟨congrArg Prod.fst hset, by rw [hset]⟩
    simp only [set, hset, hregistry]
    apply Transition.refused field args e
  · have hsucceeds : Succeeds ((statement.fragment field).set args) statement.registry
        fragment registry := ⟨congrArg Prod.fst hset, by rw [hset]⟩
    simp only [set, hset]
    cases args with
    | none =>
      obtain ⟨rfl, hitems⟩ := Fragment.of_succeeds_set_none hsucceeds
      apply Transition.cleared field fragment hitems
    | some args =>
      obtain ⟨checked, form, hbound, hitems⟩ := Fragment.of_succeeds_set_some hsucceeds
      apply Transition.bound field args checked form registry fragment hbound hitems

/-- Every step of a statement is one of the transitions. -/
theorem transition_step (statement : Statement grammar) (call : Call grammar) :
  Transition statement call (statement.step call).2.result (statement.step call).1
  := by
  have hasked : ∀ call : Call grammar, call.IsQuestion →
      (statement.step call).1 = statement →
      Transition statement call (statement.step call).2.result (statement.step call).1 := by
    intro call hquestion hstep
    rw [hstep]
    apply Transition.asked call _ hquestion
  cases call with
  | set field args => exact transition_set statement field args
  | reset => exact Transition.reset
  | get field => exact hasked _ trivial (fst_ask_map _ _ statement)
  | sql => exact hasked _ trivial (fst_ask_map _ _ statement)
  | build => exact hasked _ trivial (fst_ask_map _ _ statement)
  | values => exact hasked _ trivial (fst_ask_map _ _ statement)
  | nextId => exact hasked _ trivial (fst_ask_map _ _ statement)

end Statement

end BoundSql
