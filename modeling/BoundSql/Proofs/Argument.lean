import BoundSql.Proofs.Demand
import BoundSql.Proofs.Restoring

/-!
# What checks refuse

A check either has a result or refuses an argument by its name.  `Refuses` says which one, and
has a rule for each way in which checks are put together.  A coded argument is refused if it
means no variant, that is, if it is neither a variant nor the number of one (`CodeArg.Means`).
-/

namespace BoundSql

open Stateful

/-! ### Refused arguments -/

section Refuses

variable {F G : Type} {checked : Except Rejection F} {argument : String}

/-- The check refuses the argument with this name. -/
def Refuses (checked : Except Rejection F) (argument : String) : Prop :=
  ∃ reason, checked = .error ⟨argument, reason⟩

theorem not_refuses_ok {form : F} :
  ¬ Refuses (.ok form) argument
  := by
  rintro ⟨reason, h⟩
  cases h

theorem refuses_error {name : String} {reason : Reason} :
  Refuses (.error ⟨name, reason⟩ : Except Rejection F) argument ↔ argument = name
  := by
  simp [Refuses, eq_comm]

/-- One check after another refuses what the first one refuses, and then what the second one
does. -/
theorem refuses_bind {next : F → Except Rejection G} :
  Refuses (checked >>= next) argument
    ↔ Refuses checked argument ∨ ∃ form, checked = .ok form ∧ Refuses (next form) argument
  := by
  cases checked with
  | error rejection =>
    show Refuses (.error rejection) argument ↔ _
    simp [Refuses]
  | ok form =>
    show Refuses (next form) argument ↔ _
    simp [not_refuses_ok]

theorem refuses_bind_pure {f : F → G} :
  Refuses (checked >>= fun form => pure (f form)) argument ↔ Refuses checked argument
  := by
  cases checked with
  | error rejection => simp [Refuses]
  | ok form => simp [Refuses]

theorem refuses_map {f : F → G} :
  Refuses (checked.map f) argument ↔ Refuses checked argument
  := by
  cases checked with
  | error rejection => simp [Refuses, Except.map]
  | ok form => simp [Refuses, Except.map]

/-- A check has a result unless it refuses an argument. -/
theorem exists_ok_iff_not_refuses :
  (∃ form, checked = .ok form) ↔ ∀ argument, ¬ Refuses checked argument
  := by
  cases checked with
  | error rejection =>
    apply iff_of_false
    · rintro ⟨form, h⟩
      cases h
    · intro h
      apply h rejection.argument
      use rejection.reason
  | ok form =>
    apply iff_of_true
    · use form
    · exact fun argument => not_refuses_ok

/-- A check of one argument comes before all that is checked after it. -/
theorem refuses_bind_iff {name : String} {P Q : Prop} {next : F → Except Rejection G}
    (hchecked : ∀ argument, Refuses checked argument ↔ argument = name ∧ ¬ P)
    (hnext : ∀ form, Refuses (next form) argument ↔ Q) :
  Refuses (checked >>= next) argument ↔ (argument = name ∧ ¬ P) ∨ (P ∧ Q)
  := by
  have hpasses : (∃ form, checked = .ok form) ↔ P := by
    simp [exists_ok_iff_not_refuses, hchecked]
  rw [refuses_bind, hchecked, ← hpasses]
  simp only [hnext, exists_and_right]

end Refuses

/-! ### Texts and choices -/

theorem refuses_checkedText {name s argument : String} :
  Refuses (checkedText name s) argument ↔ argument = name ∧ ¬ IsClean s
  := by
  rw [checkedText, IsClean]
  cases s.isEmpty with
  | true => simp [refuses_error]
  | false =>
    cases s.toList.contains '\x00' with
    | true => simp [refuses_error]
    | false => simp [not_refuses_ok]

theorem refuses_checkedText? {name argument : String} {s : Option String} :
  Refuses (checkedText? name s) argument ↔ argument = name ∧ ¬ ∀ t ∈ s, IsClean t
  := by
  cases s with
  | none => simp [checkedText?, not_refuses_ok]
  | some t => simp [checkedText?, refuses_map, refuses_checkedText]

/-- A closed set that lists each of its variants once. -/
class Coded.IsListed (T : Type) [Coded T] : Prop extends LawfulBEq T where
  nodup : (Coded.all (T := T)).Nodup
  mem_all : ∀ t : T, t ∈ Coded.all (T := T)

instance : Coded.IsListed ColumnChange := ⟨by decide, by rintro (_ | _) <;> decide⟩

instance : Coded.IsListed StorageMode := ⟨by decide, by rintro (_ | _) <;> decide⟩

instance : Coded.IsListed StorageParameter := ⟨by decide, by rintro (_ | _) <;> decide⟩

instance : Coded.IsListed RoleKind := ⟨by decide, by rintro (_ | _) <;> decide⟩

instance : Coded.IsListed TransactionMode := ⟨by decide, by rintro (_ | _) <;> decide⟩

/-- A coded argument means a variant if it is the variant or its number. -/
inductive CodeArg.Means {T : Type} [Coded T] : CodeArg T → T → Prop where
  | variant (t : T) : Means (.variant t) t
  | code (t : T) : Means (.code (Coded.code t)) t

theorem CodeArg.means_code {T : Type} [Coded T] {n : Int} {t : T} :
  (CodeArg.code n).Means t ↔ n = Coded.code t
  := by
  constructor
  · rintro (_ | _)
    rfl
  · rintro rfl
    exact .code t

section Choices

variable {T : Type} [Coded T] [Coded.IsListed T] {arg : CodeArg T} {s t : T}
  {name argument : String}

/-- The variant with a number is the one that has this number. -/
theorem Coded.ofCode?_eq_some {n : Int} :
  Coded.ofCode? n = some t ↔ n = Coded.code t
  := by
  constructor
  · intro h
    exact (Coded.code_of_ofCode? IsListed.nodup h).symm
  · rintro rfl
    have hall : (Coded.all (T := T))[Coded.all.idxOf t]? = some t :=
      List.getElem?_idxOf (IsListed.mem_all t)
    rw [ofCode?, if_pos (by rw [code]; omega)]
    exact hall

theorem CodeArg.resolve_eq_ok :
  arg.resolve = .ok t ↔ arg.Means t
  := by
  constructor
  · intro h
    cases arg with
    | variant s =>
      obtain rfl := Except.ok.inj h
      exact .variant s
    | code n =>
      rw [resolve] at h
      split at h
      next s hcode =>
        obtain rfl := Except.ok.inj h
        obtain rfl := Coded.ofCode?_eq_some.mp hcode
        exact .code s
      next => contradiction
  · rintro (_ | _)
    · rfl
    · rw [resolve, Coded.ofCode?_eq_some.mpr rfl]

theorem CodeArg.Means.unique (h : arg.Means s) (h' : arg.Means t) :
  s = t
  := Except.ok.inj ((resolve_eq_ok.mpr h).symm.trans (resolve_eq_ok.mpr h'))

theorem CodeArg.Means.normalise_eq (h : arg.Means t) :
  arg.normalise = .variant t
  := by
  rw [normalise, resolve_eq_ok.mpr h]

/-- The check of a coded argument finds the variant that is meant. -/
theorem checkedCode_eq_ok :
  checkedCode name arg = .ok t ↔ arg.Means t
  := by
  rw [← CodeArg.resolve_eq_ok, checkedCode]
  cases arg.resolve with
  | error n => simp
  | ok s => simp

theorem refuses_checkedCode :
  Refuses (checkedCode name arg) argument ↔ argument = name ∧ ∀ t, ¬ arg.Means t
  := by
  simp only [← CodeArg.resolve_eq_ok]
  rw [checkedCode]
  cases arg.resolve with
  | error n => simp [refuses_error]
  | ok s => simp [not_refuses_ok]

end Choices

/-! ### Refused by a clause -/

namespace Clause

variable {clause : Clause} {args : clause.Args} {registry : Registry} {function : String}
  {checked : Except Rejection (clause.Form Value)}

/-- With every registry, a clause refuses the arguments that its check refuses. -/
theorem exists_fails_bind_of_refuses (hcheck : clause.check args = refusing function checked)
    {argument : String} (h : Refuses checked argument) (registry : Registry) :
  ∃ reason, Fails (clause.bind args) registry (.invalidArgument function ⟨argument, reason⟩)
    registry
  := by
  obtain ⟨reason, rfl⟩ := h
  exact ⟨reason, fails_bind_of_invalidArgument hcheck registry⟩

/-- With room for their literals, arguments are refused by the check only, and leave no token. -/
theorem refuses_of_fails_bind (hcheck : clause.check args = refusing function checked)
    (hroom : registry.HasRoom (clause.supplied Query.values args).length)
    {e : Error} {changed : Registry} (h : Fails (clause.bind args) registry e changed) :
  changed = registry ∧ ∃ argument reason,
    Refuses checked argument ∧ e = .invalidArgument function ⟨argument, reason⟩
  := by
  cases checked with
  | error rejection =>
    have hfails := fails_bind_of_check hroom hcheck
    obtain rfl := Except.error.inj (hfails.2.symm.trans h.2)
    use h.1.symm.trans hfails.1, rejection.argument, rejection.reason
    exact ⟨⟨rejection.reason, rfl⟩, rfl⟩
  | ok value =>
    obtain ⟨form, after, hsucceeds⟩ := succeeds_bind_of_check hroom hcheck
    cases hsucceeds.2.symm.trans h.2

/-- With room for their literals, arguments are bound unless the check refuses one. -/
theorem exists_succeeds_bind_iff (hcheck : clause.check args = refusing function checked)
    (hroom : registry.HasRoom (clause.supplied Query.values args).length) :
  (∃ form changed, Succeeds (clause.bind args) registry form changed)
    ↔ ∀ argument, ¬ Refuses checked argument
  := by
  rw [← exists_ok_iff_not_refuses]
  constructor
  · rintro ⟨form, changed, h⟩
    obtain ⟨value, hbound⟩ := clause.of_succeeds_bind h
    exact ⟨value, refusing_eq_ok.mp (hcheck.symm.trans hbound.check_eq)⟩
  · rintro ⟨value, hvalue⟩
    exact succeeds_bind_of_check hroom (hcheck.trans (refusing_eq_ok.mpr hvalue))

/-- A registry that fits binds the arguments exactly if the check refuses none of them and there
is room for their literals. -/
theorem exists_succeeds_bind_iff_of_fits (hcheck : clause.check args = refusing function checked)
    (hfits : registry.Fits) :
  (∃ form changed, Succeeds (clause.bind args) registry form changed)
    ↔ (∀ argument, ¬ Refuses checked argument)
      ∧ registry.HasRoom (clause.supplied Query.values args).length
  := by
  constructor
  · rintro ⟨form, changed, h⟩
    have hroom := hasRoom_of_succeeds_bind hfits h
    exact ⟨(exists_succeeds_bind_iff hcheck hroom).mp ⟨form, changed, h⟩, hroom⟩
  · rintro ⟨hnone, hroom⟩
    exact (exists_succeeds_bind_iff hcheck hroom).mpr hnone

end Clause

/-! ### Refused by a fragment -/

namespace Fragment

variable {clause : Clause} {arity : Arity} {fragment changed : Fragment clause arity}
  {args : clause.Args} {registry after : Registry} {e : Error}

/-- What a fragment answers to a form that has been bound: it has to go with those that are kept
where there may be several. -/
def accept : {arity : Arity} → Fragment clause arity → clause.Form Token → Except Rejection Unit
  | .one, _, _ => .ok ()
  | .many, fragment, form => clause.refuseAfter fragment.items form

/-- Adding fails where binding does, or after it if the form is not accepted. -/
theorem fails_add_iff :
  Fails (fragment.add args) registry e after
    ↔ Fails (clause.bind args) registry e after
      ∨ ∃ form, Succeeds (clause.bind args) registry form after
        ∧ ∃ rejection, fragment.accept form = .error rejection
          ∧ e = .invalidArgument clause.function rejection
  := by
  cases arity with
  | one =>
    refine fails_bind.trans (or_congr_right ?_)
    simp [not_fails_pure, accept]
  | many =>
    refine fails_bind.trans (or_congr_right ?_)
    constructor
    · rintro ⟨form, middle, hbind, hrest⟩
      obtain hlift | ⟨_, _, -, hpure⟩ := fails_bind.mp hrest
      · obtain ⟨rfl, hrefuse⟩ := fails_lift.mp hlift
        exact ⟨form, hbind, Clause.refusing_eq_error.mp hrefuse⟩
      · cases not_fails_pure hpure
    · rintro ⟨form, hbind, hrefuse⟩
      refine ⟨form, after, hbind, fails_bind.mpr (Or.inl (fails_lift.mpr ⟨rfl, ?_⟩))⟩
      exact Clause.refusing_eq_error.mpr hrefuse

/-- Setting fails where adding does, and leaves the registry. -/
theorem fails_set_iff :
  Fails (fragment.set (some args)) registry e after
    ↔ after = registry ∧ ∃ between, Fails (fragment.add args) registry e between
  := by
  constructor
  · intro h
    use of_fails_set h, (fragment.add args registry).1, rfl
    rw [← result_set_some]
    exact h.2
  · rintro ⟨rfl, between, h⟩
    have hresult : (fragment.set (some args) after).2.result = .error e :=
      (result_set_some fragment args).trans h.2
    exact ⟨of_fails_set ⟨rfl, hresult⟩, hresult⟩

/-- A fragment that accepts every form is set exactly if the arguments can be bound. -/
theorem fails_set_iff_of_accept (haccept : ∀ form, fragment.accept form = .ok ()) :
  Fails (fragment.set (some args)) registry e after
    ↔ after = registry ∧ ∃ between, Fails (clause.bind args) registry e between
  := by
  simp [fails_set_iff, fails_add_iff, haccept]

/-- A form that has been set has been bound and accepted. -/
theorem of_succeeds_set (h : Succeeds (fragment.set (some args)) registry changed after) :
  ∃ form, Succeeds (clause.bind args) registry form after ∧ fragment.accept form = .ok ()
    ∧ changed.items = arity.keep fragment.items form
  := by
  have hadd := Registry.succeeds_atomic.mp (succeeds_noteError.mp h)
  obtain ⟨form, hbind, hitems⟩ := of_succeeds_add hadd
  use form, hbind
  refine ⟨?_, hitems⟩
  cases haccept : fragment.accept form with
  | ok u => rfl
  | error rejection =>
    have hfails := fails_add_iff.mpr (Or.inr ⟨form, hbind, rejection, haccept, rfl⟩)
    cases hfails.2.symm.trans hadd.2

end Fragment

end BoundSql
