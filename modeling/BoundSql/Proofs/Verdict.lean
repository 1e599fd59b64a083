import BoundSql.Proofs.Renaming
import BoundSql.Proofs.Retrieval
import BoundSql.Proofs.Room

/-!
# What setters answer

A setter needs room in the registry for the literals of its arguments.  Where there is room,
what it answers depends on nothing but its arguments and those that are in force for its field:
not on the tokens that have been issued before, nor on the other fields.  `Clause.verdict` is
this answer (`Fragment.result_set`).
-/

namespace BoundSql

open Stateful

/-! ### Room -/

/-- There is room for further tokens: neither the capacity nor the numbers run out. -/
structure Registry.HasRoom (registry : Registry) (count : Nat) : Prop where
  le_capacity : registry.size + count ≤ registry.capacity
  le_size : registry.firstId + registry.size + count ≤ UInt32.size

namespace Registry

variable {registry changed : Registry}

theorem HasRoom.mono {count more : Nat} (h : registry.HasRoom more) (hle : count ≤ more) :
  registry.HasRoom count
  := by
  obtain ⟨hcapacity, hsize⟩ := h
  constructor
  · omega
  · omega

theorem hasRoom_new {config : Config} {origin count : Nat}
    (hcapacity : count ≤ config.capacity.toNat)
    (hsize : config.firstId.toNat + count ≤ UInt32.size) :
  (new config origin).HasRoom count
  := by
  constructor
  · show 0 + count ≤ config.capacity.toNat
    rw [Nat.zero_add]
    exact hcapacity
  · exact hsize

/-- Issuing tokens takes their room. -/
theorem HasRoom.append {entries : List (Option Value)} {count : Nat}
    (h : registry.HasRoom (entries.length + count)) :
  (registry.append entries).HasRoom count
  := by
  obtain ⟨hcapacity, hsize⟩ := h
  constructor
  · rw [size_append, Nat.add_assoc]
    exact hcapacity
  · rw [size_append, firstId_append]
    omega

theorem HasRoom.succeeds_allocate {values : List Value} (h : registry.HasRoom values.length) :
  Succeeds (values.mapM allocate) registry (registry.nextTokens values.length)
    (registry.append (values.map some))
  := by
  have hissue : (values.map some).mapM issue = values.mapM allocate := List.mapM_map
  rw [← hissue, ← List.length_map (f := some)]
  apply succeeds_mapM_issue
  · rw [List.length_map]
    exact h.le_capacity
  · rw [List.length_map]
    exact h.le_size

/-- With room for its values, a query is absorbed if its tokens can be read. -/
theorem HasRoom.succeeds_absorb {query : Query} (h : registry.HasRoom query.values.length)
    {body : Template Nat} (hbody : query.references = .ok body) :
  Succeeds (absorb query) registry ⟨body, registry.nextTokens query.values.length⟩
    (registry.append (query.values.map some))
  := Registry.succeeds_absorb.mpr ⟨h.le_capacity, hbody, h.succeeds_allocate⟩

/-- With room for its values, a query is refused if its tokens cannot be read. -/
theorem HasRoom.fails_absorb {query : Query} (h : registry.HasRoom query.values.length)
    {fault : AllocationFault} (hfault : query.references = .error fault) :
  Fails (absorb query) registry (.allocation fault) registry
  := by
  apply fails_bind.mpr
  right
  refine ⟨(), registry, succeeds_makeRoom.mpr ⟨rfl, h.le_capacity⟩, ?_⟩
  apply fails_bind.mpr
  left
  apply fails_lift.mpr
  rw [hfault]
  exact ⟨rfl, rfl⟩

end Registry

/-! ### Binding with room -/

theorem Traversal.IsLawful.succeeds_traverse {F : Type → Type} {T : Traversal F}
    (hT : T.IsLawful) {α β σ : Type} {f : α → Stateful σ β} {x : F α} {s changed : σ}
    {bs : List β} (h : Succeeds ((T.literals x).mapM f) s bs changed) :
  ∃ y, Succeeds (T.traverse f x) s y changed
  := by
  obtain ⟨hchanged, -, hresult⟩ := hT.run_traverse f x s
  rw [h.2] at hresult
  cases hvisit : (T.traverse f x s).2.result with
  | error e =>
    rw [hvisit] at hresult
    cases hresult
  | ok y => exact ⟨y, hchanged.trans h.1, hvisit⟩

namespace Clause

variable {clause : Clause} {args : clause.Args} {registry : Registry}

/-- A query that cannot be checked is refused for the same reason. -/
theorem fails_absorb_of_check {c : Condition} {q : Query}
    (hroom : registry.HasRoom q.values.length) {e : Error}
    (hcheck : Expression.check c.function (.query q) = .error e) :
  Fails (Registry.absorb q) registry e registry
  := by
  rw [Expression.check] at hcheck
  cases hreferences : q.references with
  | ok body =>
    rw [hreferences] at hcheck
    cases hcheck
  | error fault =>
    rw [hreferences] at hcheck
    obtain rfl := Except.error.inj hcheck
    exact hroom.fails_absorb hreferences

theorem succeeds_visit_of_check {checked : clause.Form Value}
    (hroom : registry.HasRoom (clause.literals checked).length)
    (hcheck : clause.check args = .ok checked) :
  ∃ form changed, Succeeds (do
    let checked ← Stateful.lift (Traced.ofExcept (clause.check args))
    clause.traverse Registry.allocate checked) registry form changed
  := by
  obtain ⟨form, hvisit⟩ := clause.traversal_isLawful.succeeds_traverse hroom.succeeds_allocate
  exact ⟨form, _, succeeds_bind.mpr ⟨checked, registry, succeeds_lift.mpr ⟨rfl, hcheck⟩, hvisit⟩⟩

/-- With room for their literals, arguments are bound if they pass the check. -/
theorem succeeds_bind_of_check
    (hroom : registry.HasRoom (clause.supplied Query.values args).length)
    {checked : clause.Form Value} (hcheck : clause.check args = .ok checked) :
  ∃ form changed, Succeeds (clause.bind args) registry form changed
  := by
  rw [← Clause.literals_of_check clause hcheck] at hroom
  unfold bind
  split
  next c q =>
    obtain ⟨body, hbody, rfl⟩ := (Expression.check_query_eq_ok c.function).mp hcheck
    have habsorb := hroom.succeeds_absorb hbody
    exact ⟨_, _, succeeds_bind.mpr ⟨_, _, habsorb, succeeds_pure.mpr ⟨rfl, rfl⟩⟩⟩
  next => exact succeeds_visit_of_check hroom hcheck

/-- With room for their literals, arguments are refused as the check refuses them. -/
theorem fails_bind_of_check
    (hroom : registry.HasRoom (clause.supplied Query.values args).length)
    {e : Error} (hcheck : clause.check args = .error e) :
  Fails (clause.bind args) registry e registry
  := by
  unfold bind
  split
  next c q => exact fails_bind.mpr (Or.inl (fails_absorb_of_check (c := c) hroom hcheck))
  next => exact fails_bind.mpr (Or.inl (fails_lift.mpr ⟨rfl, hcheck⟩))

/-! ### Verdicts -/

/-- The answer to arguments for a clause when others are in force.  Only where several forms
are kept do these matter. -/
def verdict (clause : Clause) (arity : Arity) (inForce : List clause.Args)
    (args : clause.Args) : Except Error Unit := do
  let next ← clause.check args
  match arity with
  | .one => pure ()
  | .many =>
    let forms ← inForce.mapM clause.check
    refusing clause.function (clause.refuseAfter forms next)

/-- Forms that are kept are the checked forms of the arguments, but for the tokens by which the
registry knows the values. -/
theorem exists_checked_of_forall₂ {items : List (clause.Form Token)} {inForce : List clause.Args}
    (h : List.Forall₂ (clause.IsKept registry) items inForce) :
  ∃ forms, inForce.mapM clause.check = .ok forms
    ∧ items.map (clause.traversal.map registry.lookup)
      = forms.map (clause.traversal.map some)
  := by
  induction h with
  | nil => exact ⟨[], rfl, rfl⟩
  | cons hform _ ih =>
    obtain ⟨checked, hcheck, hshape, hlookup⟩ := hform.exists_checked
    obtain ⟨forms, hforms, hitems⟩ := ih
    use checked :: forms
    constructor
    · rw [List.mapM_cons, hcheck, hforms]
      rfl
    · rw [List.map_cons, List.map_cons, hitems,
        clause.traversal_isLawful.map_eq_map hshape hlookup]

/-- A form goes with those that are kept if its checked form goes with the checked forms. -/
theorem refuseAfter_eq_of_isKept {items : List (clause.Form Token)} {inForce : List clause.Args}
    (h : List.Forall₂ (clause.IsKept registry) items inForce) {form : clause.Form Token}
    (hform : clause.IsKept registry form args) {forms : List (clause.Form Value)}
    (hforms : inForce.mapM clause.check = .ok forms) {checked : clause.Form Value}
    (hcheck : clause.check args = .ok checked) :
  clause.refuseAfter items form = clause.refuseAfter forms checked
  := by
  obtain ⟨forms', hforms', hitems⟩ := exists_checked_of_forall₂ h
  obtain rfl := Except.ok.inj (hforms.symm.trans hforms')
  obtain ⟨checked', hcheck', hshape, hlookup⟩ := hform.exists_checked
  obtain rfl := Except.ok.inj (hcheck.symm.trans hcheck')
  have hnext : clause.traversal.map registry.lookup form = clause.traversal.map some checked :=
    clause.traversal_isLawful.map_eq_map hshape hlookup
  rw [← clause.refuseAfter_map registry.lookup items form, hitems, hnext, clause.refuseAfter_map]

end Clause

/-! ### Setting with room -/

namespace Fragment

variable {clause : Clause} {arity : Arity} {registry : Registry}

theorem result_set_some (fragment : Fragment clause arity) (args : clause.Args) :
  (fragment.set (some args) registry).2.result = (fragment.add args registry).2.result
  := by
  have hatomic : (Registry.atomic (fragment.add args) registry).2.result
      = (fragment.add args registry).2.result := by
    rw [Registry.atomic]
    rcases fragment.add args registry with ⟨changed, events, e | a⟩
    · rfl
    · rfl
  rw [← hatomic]
  exact Traced.result_noteError _ _

theorem result_add_one {fragment : Fragment clause .one} {args : clause.Args}
    {form : clause.Form Token} {changed : Registry}
    (hbind : Succeeds (clause.bind args) registry form changed) :
  (fragment.add args registry).2.result.map (fun _ => ()) = .ok ()
  := by
  have hadd : Succeeds (fragment.add args) registry ⟨some form⟩ changed :=
    succeeds_bind.mpr ⟨form, changed, hbind, succeeds_pure.mpr ⟨rfl, rfl⟩⟩
  rw [hadd.2]
  rfl

/-- A bound form is kept with others unless it does not go with them. -/
theorem result_add_many {fragment : Fragment clause .many} {args : clause.Args}
    {form : clause.Form Token} {changed : Registry}
    (hbind : Succeeds (clause.bind args) registry form changed) :
  (fragment.add args registry).2.result.map (fun _ => ())
    = Clause.refusing clause.function (clause.refuseAfter fragment.items form)
  := by
  cases hrefuse : Clause.refusing clause.function (clause.refuseAfter fragment.items form) with
  | error e =>
    have hadd : Fails (fragment.add args) registry e changed := by
      apply fails_bind.mpr
      right
      exact ⟨form, changed, hbind, fails_bind.mpr (Or.inl (fails_lift.mpr ⟨rfl, hrefuse⟩))⟩
    rw [hadd.2]
    rfl
  | ok u =>
    have hadd : Succeeds (fragment.add args) registry ⟨fragment.items ++ [form]⟩ changed := by
      apply succeeds_bind.mpr
      refine ⟨form, changed, hbind, succeeds_bind.mpr ⟨u, changed, ?_, ?_⟩⟩
      · exact succeeds_lift.mpr ⟨rfl, hrefuse⟩
      · exact succeeds_pure.mpr ⟨rfl, rfl⟩
    rw [hadd.2]
    rfl

/-- With room for the literals of the arguments, the answer is the verdict of the clause. -/
theorem result_set {fragment : Fragment clause arity} {inForce : List clause.Args}
    (hkept : List.Forall₂ (clause.IsKept registry) fragment.items inForce) {args : clause.Args}
    (hroom : registry.HasRoom (clause.supplied Query.values args).length) :
  (fragment.set (some args) registry).2.result.map (fun _ => ())
    = clause.verdict arity inForce args
  := by
  rw [result_set_some, Clause.verdict]
  cases hcheck : clause.check args with
  | error e =>
    have hbind := Clause.fails_bind_of_check hroom hcheck
    have hadd : Fails (fragment.add args) registry e registry := by
      cases arity with
      | one => exact fails_bind.mpr (Or.inl hbind)
      | many => exact fails_bind.mpr (Or.inl hbind)
    rw [hadd.2]
    rfl
  | ok checked =>
    obtain ⟨form, changed, hbind⟩ := Clause.succeeds_bind_of_check hroom hcheck
    cases arity with
    | one => exact result_add_one hbind
    | many =>
      obtain ⟨_, hbound⟩ := clause.of_succeeds_bind hbind
      have hform := Clause.isKept_isMade clause args registry _ form changed hbound
      have hitems : List.Forall₂ (clause.IsKept changed) fragment.items inForce := by
        rw [hbound.changed_eq]
        exact hkept.imp fun kept args h => Clause.isKept_lasts _ _ _ _ h _
      obtain ⟨forms, hforms, -⟩ := Clause.exists_checked_of_forall₂ hkept
      rw [result_add_many hbind, Clause.refuseAfter_eq_of_isKept hitems hform hforms hcheck]
      show _ = inForce.mapM clause.check >>= fun forms =>
        Clause.refusing clause.function (clause.refuseAfter forms checked)
      rw [hforms]
      rfl

end Fragment

end BoundSql
