import BoundSql.Stateful
import Mathlib.Data.List.Forall2

/-!
# Outcomes of computations

A computation that may fail succeeds when all its parts do.  A computation on a state
succeeds with a result or fails with an error, and leaves a state in both cases.
`Stateful.Succeeds` and `Stateful.Fails` say which, without regard to the events on the way,
and the lemmas take a sequence of computations apart into the outcomes of its parts.
-/

namespace BoundSql

/-! ### Results -/

namespace Except

variable {ε ε' α β : Type}

theorem exists_eq_ok {x : Except ε α} (h : x.isOk = true) :
  ∃ a, x = .ok a
  := by
  cases x with
  | error e => contradiction
  | ok a => use a

theorem bind_eq_ok {x : Except ε α} {f : α → Except ε β} {b : β} :
  x >>= f = .ok b ↔ ∃ a, x = .ok a ∧ f a = .ok b
  := by
  cases x with
  | error e => simp [bind, Except.bind]
  | ok a => simp [bind, Except.bind]

theorem exists_pure_eq_ok {a : α} :
  ∃ b, (pure a : Except ε α) = .ok b
  := ⟨a, rfl⟩

/-- A check in front of a computation has to succeed as well. -/
theorem exists_seq_eq_ok {x : Except ε Unit} {y : Except ε α} :
  (∃ a, (x >>= fun _ => y) = .ok a) ↔ x = .ok () ∧ ∃ a, y = .ok a
  := by
  cases x with
  | error e => exact iff_of_false nofun nofun
  | ok _ => exact (and_iff_right rfl).symm

theorem exists_bind_pure_eq_ok {x : Except ε α} {f : α → β} :
  (∃ b, (x >>= fun a => pure (f a)) = .ok b) ↔ ∃ a, x = .ok a
  := by
  cases x with
  | error e => exact iff_of_false nofun nofun
  | ok a => exact iff_of_true ⟨f a, rfl⟩ ⟨a, rfl⟩

theorem map_eq_ok {x : Except ε α} {f : α → β} {b : β} :
  x.map f = .ok b ↔ ∃ a, x = .ok a ∧ f a = b
  := by
  cases x with
  | error e => simp [Except.map]
  | ok a => simp [Except.map]

theorem mapError_eq_ok {x : Except ε α} {f : ε → ε'} {a : α} :
  x.mapError f = .ok a ↔ x = .ok a
  := by
  cases x with
  | error e => simp [Except.mapError]
  | ok a => simp [Except.mapError]

/-- A list of computations succeeds when each of them does. -/
theorem forall₂_of_mapM {f : α → Except ε β} {as : List α} {bs : List β}
    (h : as.mapM f = .ok bs) :
  List.Forall₂ (fun a b => f a = .ok b) as bs
  := by
  induction as generalizing bs with
  | nil =>
    obtain rfl := Except.ok.inj h
    constructor
  | cons a as ih =>
    rw [List.mapM_cons] at h
    obtain ⟨b, hb, hrest⟩ := bind_eq_ok.mp h
    obtain ⟨rest, hmapM, hpure⟩ := bind_eq_ok.mp hrest
    obtain rfl := Except.ok.inj hpure
    constructor
    · apply hb
    · apply ih hmapM

/-- What is the same of an argument and its result is the same of lists of them. -/
theorem map_eq_map_of_mapM {γ : Type} {f : α → Except ε β} {p : β → γ} {q : α → γ}
    (hf : ∀ a b, f a = .ok b → p b = q a) {as : List α} {bs : List β}
    (h : as.mapM f = .ok bs) :
  bs.map p = as.map q
  := by
  have hall := forall₂_of_mapM h
  clear h
  induction hall with
  | nil => rfl
  | cons hb _ ih => rw [List.map_cons, List.map_cons, hf _ _ hb, ih]

end Except

/-! ### Traced computations -/

theorem Traced.result_discard {α : Type} (x : Traced α) :
  (discard x).result = x.result.map fun _ => ()
  := by
  obtain ⟨events, e | a⟩ := x
  · rfl
  · rfl

/-- Visiting a list succeeds when every visit does. -/
theorem Traced.of_result_forM {α : Type} {f : α → Traced Unit} {as : List α} {u : Unit}
    (h : (as.forM f).result = .ok u) :
  ∀ a ∈ as, (f a).result = .ok ()
  := by
  induction as with
  | nil => simp
  | cons a as ih =>
    have hcons : (a :: as).forM f = f a >>= fun _ => as.forM f := rfl
    rw [hcons, result_bind] at h
    obtain ⟨_, ha, has⟩ := Except.bind_eq_ok.mp h
    rw [List.forall_mem_cons]
    use ha, ih has

/-- Visiting a list does nothing when no visit does anything. -/
theorem Traced.forM_eq_pure {α : Type} {f : α → Traced Unit} {as : List α}
    (h : ∀ a ∈ as, f a = pure ()) :
  as.forM f = pure ()
  := by
  induction as with
  | nil => rfl
  | cons a as ih =>
    rw [List.forall_mem_cons] at h
    have hcons : (a :: as).forM f = f a >>= fun _ => as.forM f := rfl
    rw [hcons, h.1, pure_bind, ih h.2]

/-! ### Computations on a state -/

namespace Stateful

variable {σ α β : Type}

/-- The computation has the result `a` and leaves the state `changed`. -/
def Succeeds (x : Stateful σ α) (s : σ) (a : α) (changed : σ) : Prop :=
  (x s).1 = changed ∧ (x s).2.result = .ok a

/-- The computation fails with the error `e` and leaves the state `changed`. -/
def Fails (x : Stateful σ α) (s : σ) (e : Error) (changed : σ) : Prop :=
  (x s).1 = changed ∧ (x s).2.result = .error e

theorem succeeds_pure {a b : α} {s changed : σ} :
  Succeeds (pure a) s b changed ↔ s = changed ∧ a = b
  := by
  simp [Succeeds]

theorem not_fails_pure {a : α} {s changed : σ} {e : Error} :
  ¬ Fails (pure a) s e changed
  := by
  simp [Fails]

theorem succeeds_iff_of_ok {x : Stateful σ α} {s changed final : σ} {events : List Event}
    {a b : α} (h : x s = (changed, ⟨events, .ok a⟩)) :
  Succeeds x s b final ↔ changed = final ∧ a = b
  := by
  simp [Succeeds, h]

theorem succeeds_bind {x : Stateful σ α} {f : α → Stateful σ β} {s final : σ} {b : β} :
  Succeeds (x >>= f) s b final
    ↔ ∃ a changed, Succeeds x s a changed ∧ Succeeds (f a) changed b final
  := by
  rcases h : x s with ⟨changed, events, e | a⟩
  · simp [Succeeds, run_bind_of_error h, h]
  · rw [Succeeds, run_bind_of_ok h]
    constructor
    · intro hrest
      use a, changed, (succeeds_iff_of_ok h).mpr ⟨rfl, rfl⟩
      apply hrest
    · rintro ⟨a', changed', hx, hrest⟩
      obtain ⟨rfl, rfl⟩ := (succeeds_iff_of_ok h).mp hx
      apply hrest

theorem fails_bind {x : Stateful σ α} {f : α → Stateful σ β} {s final : σ} {e : Error} :
  Fails (x >>= f) s e final
    ↔ Fails x s e final
      ∨ ∃ a changed, Succeeds x s a changed ∧ Fails (f a) changed e final
  := by
  rcases h : x s with ⟨changed, events, e | a⟩
  · simp [Fails, Succeeds, run_bind_of_error h, h]
  · rw [Fails, run_bind_of_ok h]
    constructor
    · intro hrest
      right
      use a, changed, (succeeds_iff_of_ok h).mpr ⟨rfl, rfl⟩
      apply hrest
    · rintro (⟨-, he⟩ | ⟨a', changed', hx, hrest⟩)
      · rw [h] at he
        contradiction
      · obtain ⟨rfl, rfl⟩ := (succeeds_iff_of_ok h).mp hx
        apply hrest

theorem succeeds_lift {x : Traced α} {s changed : σ} {a : α} :
  Succeeds (lift x) s a changed ↔ s = changed ∧ x.result = .ok a
  := Iff.rfl

theorem fails_lift {x : Traced α} {s changed : σ} {e : Error} :
  Fails (lift x) s e changed ↔ s = changed ∧ x.result = .error e
  := Iff.rfl

theorem succeeds_noteError {event : Error → Event} {x : Stateful σ α} {s changed : σ}
    {a : α} :
  Succeeds (x.noteError event) s a changed ↔ Succeeds x s a changed
  := by
  simp only [Succeeds, noteError, Traced.result_noteError]

theorem fails_noteError {event : Error → Event} {x : Stateful σ α} {s changed : σ}
    {e : Error} :
  Fails (x.noteError event) s e changed ↔ Fails x s e changed
  := by
  simp only [Fails, noteError, Traced.result_noteError]

/-- Every computation succeeds or fails. -/
theorem succeeds_or_fails (x : Stateful σ α) (s : σ) :
  (∃ a, Succeeds x s a (x s).1) ∨ ∃ e, Fails x s e (x s).1
  := by
  cases h : (x s).2.result with
  | error e =>
    right
    use e, rfl, h
  | ok a =>
    left
    use a, rfl, h

/-- A computation fails exactly if it does not succeed. -/
theorem exists_fails_iff {x : Stateful σ α} {s : σ} :
  (∃ e changed, Fails x s e changed) ↔ ¬ ∃ a changed, Succeeds x s a changed
  := by
  constructor
  · rintro ⟨e, changed, hfails⟩ ⟨a, after, hsucceeds⟩
    cases hsucceeds.2.symm.trans hfails.2
  · intro hnone
    obtain ⟨a, h⟩ | ⟨e, h⟩ := succeeds_or_fails x s
    · exact absurd ⟨a, _, h⟩ hnone
    · exact ⟨e, _, h⟩

end Stateful

end BoundSql
