import BoundSql.Event

/-!
# Traced computations

A computation of type `Traced α` has a result, which is an error or an `α`, and the
events on the way to it, which are kept also when it fails.  Computations in sequence
stop at the first error.
-/

namespace BoundSql

/-- A result and the events on the way to it. -/
structure Traced (α : Type) where
  events : List Event
  result : Except Error α

namespace Traced

variable {α β γ : Type}

/-- The computation that has a result at once. -/
protected def pure (a : α) : Traced α := ⟨[], .ok a⟩

/-- The computation that goes on with the result of another one. -/
protected def bind (x : Traced α) (f : α → Traced β) : Traced β :=
  match x.result with
  | .error e => ⟨x.events, .error e⟩
  | .ok a => ⟨x.events ++ (f a).events, (f a).result⟩

instance : Monad Traced where
  pure := Traced.pure
  bind := Traced.bind

/-- The computation that fails. -/
def fail (e : Error) : Traced α := ⟨[], .error e⟩

/-- The computation that reports an event. -/
def note (event : Event) : Traced Unit := ⟨[event], .ok ()⟩

/-- The computation without events that has the given result. -/
def ofExcept (result : Except Error α) : Traced α := ⟨[], result⟩

/-- Reports an event for the error with which a computation fails. -/
def noteError (event : Error → Event) (x : Traced α) : Traced α :=
  match x.result with
  | .error e => ⟨x.events ++ [event e], .error e⟩
  | .ok _ => x

@[simp]
theorem result_pure (a : α) :
  (pure a : Traced α).result = .ok a
  := rfl

@[simp]
theorem events_pure (a : α) :
  (pure a : Traced α).events = []
  := rfl

@[simp]
theorem result_bind (x : Traced α) (f : α → Traced β) :
  (x >>= f).result = x.result >>= fun a => (f a).result
  := by
  obtain ⟨events, e | a⟩ := x <;> rfl

theorem result_noteError (event : Error → Event) (x : Traced α) :
  (x.noteError event).result = x.result
  := by
  obtain ⟨events, e | a⟩ := x <;> rfl

theorem map_id (x : Traced α) :
  id <$> x = x
  := by
  obtain ⟨events, e | a⟩ := x
  · rfl
  · simp [Functor.map, Traced.bind, Traced.pure]

theorem bind_assoc (x : Traced α) (f : α → Traced β) (g : β → Traced γ) :
  (x >>= f) >>= g = x >>= fun a => f a >>= g
  := by
  obtain ⟨events, e | a⟩ := x
  · rfl
  · show Traced.bind (Traced.bind _ _) _ = Traced.bind _ _
    cases h : (f a).result with
    | error e => simp [Traced.bind, h, Bind.bind]
    | ok b => simp [Traced.bind, h, Bind.bind, List.append_assoc]

instance : LawfulMonad Traced :=
  LawfulMonad.mk' Traced map_id (fun _ _ => rfl) bind_assoc

end Traced

end BoundSql
