import BoundSql.Proofs.Outcome

/-!
# Lawful traversals

A `Traversal F` visits what stands for the literals of an `F α`, and lists them.  Its
`shape` is what is left when the literals are forgotten.  In a lawful traversal a form is
determined by its shape and its literals, and a visit keeps the shape and visits the
literals one after another: so whatever is known about `List.mapM` is known about the
visit (`IsLawful.run_traverse`).
-/

namespace BoundSql

/-- A way to visit the literals of a type of forms, and to list them. -/
structure Traversal (F : Type → Type) where
  traverse {m : Type → Type} [Monad m] {α β : Type} (f : α → m β) (x : F α) : m (F β)
  literals {α : Type} (x : F α) : List α

open Stateful

namespace Traversal

variable {F : Type → Type} (T : Traversal F) {α β γ σ : Type}

/-- Exchanges the literals. -/
def map (f : α → β) (x : F α) : F β := Id.run (T.traverse (fun a => pure (f a)) x)

/-- A form without its literals. -/
def shape (x : F α) : F Unit := T.map (fun _ => ()) x

/-- A form is its shape and its literals; and a computation that goes on with the two of a
visited form goes on with the shape of the form and the visited literals. -/
structure IsLawful : Prop where
  ext {α : Type} {x y : F α} (hshape : T.shape x = T.shape y)
    (hliterals : T.literals x = T.literals y) : x = y
  traverse_bind {m : Type → Type} [Monad m] [LawfulMonad m] {α β γ : Type} (f : α → m β)
    (x : F α) (k : F Unit → List β → m γ) :
    (T.traverse f x >>= fun y => k (T.shape y) (T.literals y))
      = (T.literals x).mapM f >>= fun bs => k (T.shape x) bs

variable {T}

namespace IsLawful

theorem traverse_eq (h : T.IsLawful) {m : Type → Type} [Monad m] [LawfulMonad m]
    (f : α → m β) (x : F α) :
  (fun y => (T.shape y, T.literals y)) <$> T.traverse f x
    = (fun bs => (T.shape x, bs)) <$> (T.literals x).mapM f
  := by
  rw [map_eq_pure_bind, map_eq_pure_bind]
  apply h.traverse_bind f x fun shape bs => pure (shape, bs)

theorem shape_literals_map (h : T.IsLawful) (f : α → β) (x : F α) :
  (T.shape (T.map f x), T.literals (T.map f x)) = (T.shape x, (T.literals x).map f)
  := by
  have heq := h.traverse_eq (m := Id) (fun a => pure (f a)) x
  rw [List.mapM_pure] at heq
  apply heq

theorem shape_map (h : T.IsLawful) (f : α → β) (x : F α) :
  T.shape (T.map f x) = T.shape x
  := congrArg Prod.fst (h.shape_literals_map f x)

theorem literals_map (h : T.IsLawful) (f : α → β) (x : F α) :
  T.literals (T.map f x) = (T.literals x).map f
  := congrArg Prod.snd (h.shape_literals_map f x)

/-- Forms of the same shape have equally many literals. -/
theorem length_literals_eq (h : T.IsLawful) {x : F α} {y : F β}
    (hshape : T.shape x = T.shape y) :
  (T.literals x).length = (T.literals y).length
  := by
  have hlength := congrArg (fun z => (T.literals z).length) hshape
  simpa only [shape, h.literals_map, List.length_map] using hlength

/-- Forms of the same shape whose literals agree under two maps. -/
theorem map_eq_map (h : T.IsLawful) {f : α → γ} {g : β → γ} {x : F α} {y : F β}
    (hshape : T.shape x = T.shape y)
    (hliterals : (T.literals x).map f = (T.literals y).map g) :
  T.map f x = T.map g y
  := by
  apply h.ext
  · rw [h.shape_map, h.shape_map, hshape]
  · rw [h.literals_map, h.literals_map, hliterals]

/-- A visit on a state leaves the state that visiting the literals leaves, and fails or
succeeds with it. -/
theorem run_traverse (h : T.IsLawful) (f : α → Stateful σ β) (x : F α) (s : σ) :
  (T.traverse f x s).1 = ((T.literals x).mapM f s).1
    ∧ (T.traverse f x s).2.events = ((T.literals x).mapM f s).2.events
    ∧ (T.traverse f x s).2.result.map (fun y => (T.shape y, T.literals y))
        = ((T.literals x).mapM f s).2.result.map fun bs => (T.shape x, bs)
  := by
  have heq := congrFun (h.traverse_eq f x) s
  rw [Stateful.run_map, Stateful.run_map, Prod.mk.injEq, Traced.mk.injEq] at heq
  apply heq

/-- A visit succeeds with a form of the same shape, whose literals are the results of the
visits of the single literals. -/
theorem of_succeeds_traverse (h : T.IsLawful) {f : α → Stateful σ β} {x : F α} {y : F β}
    {s changed : σ} (hvisit : Succeeds (T.traverse f x) s y changed) :
  Succeeds ((T.literals x).mapM f) s (T.literals y) changed ∧ T.shape y = T.shape x
  := by
  obtain ⟨hchanged, -, hresult⟩ := h.run_traverse f x s
  rw [hvisit.2] at hresult
  cases hliterals : ((T.literals x).mapM f s).2.result with
  | error e =>
    rw [hliterals] at hresult
    contradiction
  | ok bs =>
    rw [hliterals] at hresult
    obtain ⟨hshape, hbs⟩ := Prod.mk.inj (Except.ok.inj hresult)
    constructor
    · constructor
      · rw [← hchanged, hvisit.1]
      · rw [hliterals, hbs]
    · apply hshape

theorem of_fails_traverse (h : T.IsLawful) {f : α → Stateful σ β} {x : F α} {s changed : σ}
    {e : Error} (hvisit : Fails (T.traverse f x) s e changed) :
  Fails ((T.literals x).mapM f) s e changed
  := by
  obtain ⟨hchanged, -, hresult⟩ := h.run_traverse f x s
  rw [hvisit.2] at hresult
  cases hliterals : ((T.literals x).mapM f s).2.result with
  | error e' =>
    rw [hliterals] at hresult
    obtain rfl := Except.error.inj hresult
    exact ⟨hchanged.symm.trans hvisit.1, hliterals⟩
  | ok bs =>
    rw [hliterals] at hresult
    contradiction

/-- Looking up the literals of a form gives the form of the same shape with what has been
found. -/
theorem traverse_eq_some (h : T.IsLawful) {f : α → Option β} {x : F α} {y : F β}
    (hshape : T.shape x = T.shape y)
    (hliterals : (T.literals x).map f = (T.literals y).map some) :
  T.traverse f x = some y
  := by
  have hfound : ∀ (as : List α) (bs : List β), as.map f = bs.map some →
      as.mapM f = some bs := by
    intro as
    induction as with
    | nil =>
      intro bs hbs
      rw [List.map_eq_nil_iff.mp hbs.symm]
      rfl
    | cons a as ih =>
      intro bs hbs
      obtain ⟨b, rest, rfl, hb, hrest⟩ := List.map_eq_cons_iff.mp hbs.symm
      rw [List.mapM_cons, ← hb, ih rest hrest.symm]
      rfl
  have heq := h.traverse_eq f x
  rw [hfound _ _ hliterals] at heq
  obtain ⟨found, hvisit, hpair⟩ := Option.map_eq_some_iff.mp heq
  obtain ⟨hsame, hlist⟩ := Prod.mk.inj hpair
  rw [hvisit, h.ext (hsame.trans hshape) hlist]

end IsLawful

end Traversal

end BoundSql
