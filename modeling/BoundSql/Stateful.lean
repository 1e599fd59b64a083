import BoundSql.Traced

/-!
# Computations on a state

A computation of type `Stateful σ α` changes a state of type `σ` and has a traced result.
It leaves a state also when it fails: what it has changed before the failure stays
changed, unless somebody takes it back.
-/

namespace BoundSql

/-- A computation on a state: the state that it leaves, and its result. -/
def Stateful (σ α : Type) := σ → σ × Traced α

namespace Stateful

variable {σ α β γ : Type}

/-- The computation that has a result at once. -/
protected def pure (a : α) : Stateful σ α := fun s => (s, pure a)

/-- The computation that goes on with the result of another one. -/
protected def bind (x : Stateful σ α) (f : α → Stateful σ β) : Stateful σ β := fun s =>
  match x s with
  | (changed, ⟨events, .error e⟩) => (changed, ⟨events, .error e⟩)
  | (changed, ⟨events, .ok a⟩) =>
    let (final, rest) := f a changed
    (final, ⟨events ++ rest.events, rest.result⟩)

instance : Monad (Stateful σ) where
  pure := Stateful.pure
  bind := Stateful.bind

/-- A computation that does not concern the state. -/
def lift (x : Traced α) : Stateful σ α := fun s => (s, x)

/-- Reports an event for the error with which a computation fails. -/
def noteError (event : Error → Event) (x : Stateful σ α) : Stateful σ α := fun s =>
  let (changed, result) := x s
  (changed, result.noteError event)

@[simp]
theorem run_pure (a : α) (s : σ) :
  (pure a : Stateful σ α) s = (s, pure a)
  := rfl

theorem run_bind_of_ok {x : Stateful σ α} {f : α → Stateful σ β} {s changed : σ}
    {events : List Event} {a : α} (h : x s = (changed, ⟨events, .ok a⟩)) :
  (x >>= f) s
    = ((f a changed).1, ⟨events ++ (f a changed).2.events, (f a changed).2.result⟩)
  := by
  show Stateful.bind x f s = _
  simp only [Stateful.bind, h]

theorem run_bind_of_error {x : Stateful σ α} {f : α → Stateful σ β} {s changed : σ}
    {events : List Event} {e : Error} (h : x s = (changed, ⟨events, .error e⟩)) :
  (x >>= f) s = (changed, ⟨events, .error e⟩)
  := by
  show Stateful.bind x f s = _
  simp only [Stateful.bind, h]

theorem map_id (x : Stateful σ α) :
  id <$> x = x
  := by
  funext s
  show (x >>= fun a => pure a) s = x s
  rcases h : x s with ⟨changed, events, e | a⟩
  · exact run_bind_of_error h
  · rw [run_bind_of_ok h]
    simp

theorem bind_assoc (x : Stateful σ α) (f : α → Stateful σ β) (g : β → Stateful σ γ) :
  (x >>= f) >>= g = x >>= fun a => f a >>= g
  := by
  funext s
  rcases h : x s with ⟨changed, events, e | a⟩
  · rw [run_bind_of_error h, run_bind_of_error (run_bind_of_error h)]
  · have hx := run_bind_of_ok (f := f) h
    rw [run_bind_of_ok h]
    rcases hf : f a changed with ⟨next, more, e | b⟩
    · rw [hf] at hx
      rw [run_bind_of_error hx, run_bind_of_error hf]
    · rw [hf] at hx
      rw [run_bind_of_ok hx, run_bind_of_ok hf]
      simp only [List.append_assoc]

instance : LawfulMonad (Stateful σ) :=
  LawfulMonad.mk' (Stateful σ) map_id (fun _ _ => rfl) bind_assoc

theorem run_map (f : α → β) (x : Stateful σ α) (s : σ) :
  (f <$> x) s = ((x s).1, ⟨(x s).2.events, (x s).2.result.map f⟩)
  := by
  show (x >>= fun a => pure (f a)) s = _
  rcases h : x s with ⟨changed, events, e | a⟩
  · rw [run_bind_of_error h]
    rfl
  · rw [run_bind_of_ok h]
    simp [Except.map]

end Stateful

end BoundSql
