import BoundSql.Proofs.Traversal
import BoundSql.Registry

/-!
# Computations that agree

Two computations agree when they fail with the same error or succeed with related results,
report the same events, and lead from related states to related states.  Agreement is kept
by putting computations together, and by visiting the literals of related forms, so that two
runs of the same program can be compared step by step.
-/

namespace BoundSql

/-! ### Results -/

namespace Except

variable {ε ε' α β α' β' : Type} {r : α → β → Prop} {q : α' → β' → Prop}

/-- The same error, or related results. -/
inductive Agree (r : α → β → Prop) : Except ε α → Except ε β → Prop where
  | error (e : ε) : Agree r (.error e) (.error e)
  | ok {a : α} {b : β} (h : r a b) : Agree r (.ok a) (.ok b)

theorem Agree.of_eq {x y : Except ε α} (h : x = y) :
  Agree Eq x y
  := by
  subst h
  cases x with
  | error e => exact Agree.error e
  | ok a => exact Agree.ok rfl

theorem Agree.eq {x y : Except ε α} (h : Agree Eq x y) :
  x = y
  := by
  cases h with
  | error e => rfl
  | ok h => rw [h]

theorem Agree.eq_error {y : Except ε β} {e : ε} (h : Agree r (.error e) y) :
  y = .error e
  := by
  cases h
  rfl

theorem Agree.exists_eq_ok {y : Except ε β} {a : α} (h : Agree r (.ok a) y) :
  ∃ b, y = .ok b ∧ r a b
  := by
  cases h with
  | ok hr => exact ⟨_, rfl, hr⟩

theorem Agree.bind {x : Except ε α} {y : Except ε β} {f : α → Except ε α'}
    {g : β → Except ε β'} (hx : Agree r x y) (hf : ∀ a b, r a b → Agree q (f a) (g b)) :
  Agree q (x >>= f) (y >>= g)
  := by
  cases hx with
  | error e => exact Agree.error e
  | ok h => exact hf _ _ h

theorem Agree.map {x : Except ε α} {y : Except ε β} {f : α → α'} {g : β → β'}
    (hx : Agree r x y) (hf : ∀ a b, r a b → q (f a) (g b)) :
  Agree q (x.map f) (y.map g)
  := by
  cases hx with
  | error e => exact Agree.error e
  | ok h => exact Agree.ok (hf _ _ h)

theorem Agree.mapError {x : Except ε α} {y : Except ε β} (hx : Agree r x y) (f : ε → ε') :
  Agree r (x.mapError f) (y.mapError f)
  := by
  cases hx with
  | error e => exact Agree.error (f e)
  | ok h => exact Agree.ok h

theorem Agree.imp {x : Except ε α} {y : Except ε β} {q : α → β → Prop} (hx : Agree r x y)
    (h : ∀ a b, r a b → q a b) :
  Agree q x y
  := by
  cases hx with
  | error e => exact Agree.error e
  | ok hr => exact Agree.ok (h _ _ hr)

theorem Agree.mapM {f : α → Except ε α'} {g : β → Except ε β'} {as : List α} {bs : List β}
    (h : List.Forall₂ r as bs) (hf : ∀ a b, r a b → Agree q (f a) (g b)) :
  Agree (List.Forall₂ q) (as.mapM f) (bs.mapM g)
  := by
  induction h with
  | nil => exact Agree.ok List.Forall₂.nil
  | cons hab _ ih =>
    rw [List.mapM_cons, List.mapM_cons]
    apply (hf _ _ hab).bind
    intro a b hhead
    apply ih.bind
    intro as bs htail
    apply Agree.ok (List.Forall₂.cons hhead htail)

end Except

/-! ### Traced computations -/

namespace Traced

variable {α β α' β' : Type} {r : α → β → Prop} {q : α' → β' → Prop}

/-- The same events, and results that agree. -/
structure Agree (r : α → β → Prop) (x : Traced α) (y : Traced β) : Prop where
  events_eq : x.events = y.events
  result_agree : Except.Agree r x.result y.result

theorem Agree.of_eq {x y : Traced α} (h : x = y) :
  Agree Eq x y
  := by
  constructor
  · rw [h]
  · apply Except.Agree.of_eq
    rw [h]

theorem Agree.eq {x y : Traced α} (h : Agree Eq x y) :
  x = y
  := by
  obtain ⟨events, result⟩ := x
  obtain ⟨events', result'⟩ := y
  rw [Traced.mk.injEq]
  use h.events_eq
  apply h.result_agree.eq

theorem Agree.ofExcept {x : Except Error α} {y : Except Error β} (h : Except.Agree r x y) :
  Agree r (ofExcept x) (ofExcept y)
  := ⟨rfl, h⟩

theorem Agree.bind {x : Traced α} {y : Traced β} {f : α → Traced α'} {g : β → Traced β'}
    (hx : Agree r x y) (hf : ∀ a b, r a b → Agree q (f a) (g b)) :
  Agree q (x >>= f) (y >>= g)
  := by
  obtain ⟨events, result⟩ := x
  obtain ⟨events', result'⟩ := y
  obtain ⟨hevents, hresult⟩ := hx
  obtain rfl : events = events' := hevents
  cases hresult with
  | error e =>
    constructor
    · rfl
    · apply Except.Agree.error e
  | ok h =>
    have hrest := hf _ _ h
    constructor
    · apply congrArg (events ++ ·) hrest.events_eq
    · apply hrest.result_agree

theorem Agree.noteError {x : Traced α} {y : Traced β} (hx : Agree r x y)
    (event : Error → Event) :
  Agree r (x.noteError event) (y.noteError event)
  := by
  obtain ⟨events, result⟩ := x
  obtain ⟨events', result'⟩ := y
  obtain ⟨hevents, hresult⟩ := hx
  obtain rfl : events = events' := hevents
  cases hresult with
  | error e =>
    constructor
    · rfl
    · apply Except.Agree.error e
  | ok h =>
    constructor
    · rfl
    · apply Except.Agree.ok h

theorem Agree.imp {x : Traced α} {y : Traced β} {q : α → β → Prop} (hx : Agree r x y)
    (h : ∀ a b, r a b → q a b) :
  Agree q x y
  := ⟨hx.events_eq, hx.result_agree.imp h⟩

end Traced

/-! ### Computations on a state -/

namespace Stateful

variable {σ α β α' β' : Type} {s : σ → σ → Prop} {r : α → β → Prop} {q : α' → β' → Prop}

/-- From related states to related states, with results that agree. -/
def Agree (s : σ → σ → Prop) (r : α → β → Prop) (x : Stateful σ α) (y : Stateful σ β) :
    Prop :=
  ∀ before before', s before before' →
    s (x before).1 (y before').1 ∧ Traced.Agree r (x before).2 (y before').2

theorem Agree.pure {a : α} {b : β} (h : r a b) :
  Agree s r (pure a) (pure b)
  := by
  intro before before' hs
  use hs
  constructor
  · rfl
  · apply Except.Agree.ok h

theorem Agree.lift {x : Traced α} {y : Traced β} (h : Traced.Agree r x y) :
  Agree s r (lift x) (lift y)
  := fun _ _ hs => ⟨hs, h⟩

/-- Computations that agree fail with the same error or succeed with related results. -/
theorem Agree.run {x : Stateful σ α} {y : Stateful σ β} (h : Agree s r x y) {before before' : σ}
    (hs : s before before') :
  ∃ changed changed' events, s changed changed'
    ∧ ((∃ e, x before = (changed, ⟨events, .error e⟩)
          ∧ y before' = (changed', ⟨events, .error e⟩))
      ∨ ∃ a b, r a b ∧ x before = (changed, ⟨events, .ok a⟩)
          ∧ y before' = (changed', ⟨events, .ok b⟩))
  := by
  obtain ⟨hchanged, hevents, hresult⟩ := h before before' hs
  rcases hx : x before with ⟨changed, events, result⟩
  rcases hy : y before' with ⟨changed', events', result'⟩
  rw [hx, hy] at hchanged hevents hresult
  obtain rfl : events = events' := hevents
  use changed, changed', events, hchanged
  cases hresult with
  | error e =>
    left
    use e
  | @ok a b hr =>
    right
    use a, b, hr

theorem Agree.bind {x : Stateful σ α} {y : Stateful σ β} {f : α → Stateful σ α'}
    {g : β → Stateful σ β'} (hx : Agree s r x y) (hf : ∀ a b, r a b → Agree s q (f a) (g b)) :
  Agree s q (x >>= f) (y >>= g)
  := by
  intro before before' hs
  obtain ⟨changed, changed', events, hchanged, ⟨e, hx, hy⟩ | ⟨a, b, hr, hx, hy⟩⟩ := hx.run hs
  · rw [run_bind_of_error hx, run_bind_of_error hy]
    use hchanged
    constructor
    · rfl
    · apply Except.Agree.error e
  · obtain ⟨hfinal, hrest⟩ := hf _ _ hr _ _ hchanged
    rw [run_bind_of_ok hx, run_bind_of_ok hy]
    use hfinal
    constructor
    · apply congrArg (events ++ ·) hrest.events_eq
    · apply hrest.result_agree

theorem Agree.noteError {x : Stateful σ α} {y : Stateful σ β} (hx : Agree s r x y)
    (event : Error → Event) :
  Agree s r (x.noteError event) (y.noteError event)
  := by
  intro before before' hs
  obtain ⟨hchanged, hresult⟩ := hx before before' hs
  exact ⟨hchanged, hresult.noteError event⟩

theorem Agree.imp {x : Stateful σ α} {y : Stateful σ β} {q : α → β → Prop} (hx : Agree s r x y)
    (h : ∀ a b, r a b → q a b) :
  Agree s q x y
  := fun before before' hs => ⟨(hx before before' hs).1, (hx before before' hs).2.imp h⟩

/-- Visits of lists agree when the visits of their entries do. -/
theorem Agree.mapM {f : α → Stateful σ α'} {g : β → Stateful σ β'} {as : List α} {bs : List β}
    (h : List.Forall₂ r as bs) (hf : ∀ a b, r a b → Agree s q (f a) (g b)) :
  Agree s (List.Forall₂ q) (as.mapM f) (bs.mapM g)
  := by
  induction h with
  | nil => exact Agree.pure List.Forall₂.nil
  | cons hab _ ih =>
    rw [List.mapM_cons, List.mapM_cons]
    apply (hf _ _ hab).bind
    intro c d hhead
    apply ih.bind
    intro cs ds htail
    apply Agree.pure (List.Forall₂.cons hhead htail)

end Stateful

/-! ### Related forms -/

namespace Traversal

variable {F : Type → Type} {T : Traversal F} {α β α' β' γ σ : Type} {r : α → β → Prop}
  {q : α' → β' → Prop}

/-- Forms of the same shape whose literals are related one by one. -/
structure Related (T : Traversal F) (r : α → β → Prop) (x : F α) (y : F β) : Prop where
  shape_eq : T.shape x = T.shape y
  forall₂_literals : List.Forall₂ r (T.literals x) (T.literals y)

/-- Forms of the same shape have literals in the same places. -/
theorem Related.of_shape_eq (hT : T.IsLawful) {x : F α} {y : F β}
    (h : T.shape x = T.shape y) :
  T.Related (fun _ _ => True) x y
  := by
  use h
  apply List.forall₂_iff_get.mpr
  exact ⟨hT.length_literals_eq h, fun _ _ _ => trivial⟩

theorem Related.eq (hT : T.IsLawful) {x y : F α} (h : T.Related Eq x y) :
  x = y
  := by
  apply hT.ext h.shape_eq
  rw [← List.forall₂_eq_eq_eq]
  apply h.forall₂_literals

/-- Related forms are the same where their literals are. -/
theorem Related.map_eq_map (hT : T.IsLawful) {f : α → γ} {g : β → γ} {x : F α} {y : F β}
    (h : T.Related r x y) (hfg : ∀ a b, r a b → f a = g b) :
  T.map f x = T.map g y
  := by
  apply hT.map_eq_map h.shape_eq
  rw [← List.forall₂_eq_eq_eq, List.forall₂_map_left_iff, List.forall₂_map_right_iff]
  apply h.forall₂_literals.imp hfg

/-- Visits of related forms agree when the visits of their literals do. -/
theorem IsLawful.agree_traverse (hT : T.IsLawful) {s : σ → σ → Prop} {f : α → Stateful σ α'}
    {g : β → Stateful σ β'} {x : F α} {y : F β} (h : T.Related r x y)
    (hf : ∀ a b, r a b → Stateful.Agree s q (f a) (g b)) :
  Stateful.Agree s (T.Related q) (T.traverse f x) (T.traverse g y)
  := by
  intro before before' hs
  obtain ⟨hchanged, hevents, hresult⟩ :=
    Stateful.Agree.mapM h.forall₂_literals hf before before' hs
  obtain ⟨hx, hxevents, hxresult⟩ := hT.run_traverse f x before
  obtain ⟨hy, hyevents, hyresult⟩ := hT.run_traverse g y before'
  rw [← hx, ← hy] at hchanged
  use hchanged
  constructor
  · rw [hxevents, hyevents, hevents]
  · generalize ((T.literals x).mapM f before).2.result = visited at hresult hxresult
    generalize ((T.literals y).mapM g before').2.result = visited' at hresult hyresult
    generalize (T.traverse f x before).2.result = result at hxresult
    generalize (T.traverse g y before').2.result = result' at hyresult
    cases hresult with
    | error e =>
      cases result with
      | ok a => contradiction
      | error left =>
        cases result' with
        | ok b => contradiction
        | error right =>
          obtain rfl := Except.error.inj hxresult
          obtain rfl := Except.error.inj hyresult
          apply Except.Agree.error
    | ok hliterals =>
      obtain ⟨a, rfl, ha⟩ := Except.map_eq_ok.mp hxresult
      obtain ⟨b, rfl, hb⟩ := Except.map_eq_ok.mp hyresult
      obtain ⟨hashape, rfl⟩ := Prod.mk.inj ha
      obtain ⟨hbshape, rfl⟩ := Prod.mk.inj hb
      apply Except.Agree.ok
      use (hashape.trans h.shape_eq).trans hbshape.symm

end Traversal

/-! ### Releasing tokens after a failure -/

/-- Computations that agree still do when both release what they have issued if they fail. -/
theorem Registry.agree_atomic {s : Registry → Registry → Prop} {α β : Type} {r : α → β → Prop}
    {x : Allocating α} {y : Allocating β}
    (hmark : ∀ registry registry', s registry registry' → registry.mark = registry'.mark)
    (hrollback : ∀ registry registry' mark, s registry registry' →
      s (registry.rollback mark) (registry'.rollback mark))
    (h : Stateful.Agree s r x y) :
  Stateful.Agree s r (atomic x) (atomic y)
  := by
  intro registry registry' hs
  obtain ⟨changed, changed', events, hchanged, ⟨e, hx, hy⟩ | ⟨a, b, hab, hx, hy⟩⟩ := h.run hs
  · simp only [atomic, hx, hy, hmark _ _ hs]
    use hrollback _ _ _ hchanged
    constructor
    · rfl
    · apply Except.Agree.error e
  · simp only [atomic, hx, hy]
    use hchanged
    constructor
    · rfl
    · apply Except.Agree.ok hab

end BoundSql
