import BoundSql.Proofs.Argument
import BoundSql.Proofs.Holdings
import Mathlib.Data.List.Nodup

/-!
# Lists that exclude repeats

A list of transaction modes has at most one mode of each group, and a list of storage parameters
names no parameter twice.  `Clause.Excludes` says which forms cannot stand in a list together;
after every run of commands no two forms of a list exclude each other, and a further one is
refused exactly if one of them excludes it.  The actions on a table that set or reset several
storage parameters at once follow the same rule (`lists_exclude_repeats`).
-/

namespace BoundSql

open Stateful

/-! ### What excludes what -/

/-- A value that a storage parameter can be set to: a number, a truth value or clean text. -/
def Value.IsSettable : Value → Prop
  | .text s => IsClean s
  | .json _ => False
  | _ => True

theorem Setting.reason?_eq_none_iff {value : Value} :
  reason? value = none ↔ value.IsSettable
  := by
  cases value with
  | text s => simp [reason?, Value.IsSettable, IsClean]
  | json document => simp [reason?, Value.IsSettable]
  | _ => simp [reason?, Value.IsSettable]

/-- The check of a setting finds the parameter that is meant and keeps the value. -/
theorem Setting.check_eq_ok {args : SettingArgs} {setting : Setting Value} :
  check args = .ok setting
    ↔ args.parameter.Means setting.parameter ∧ args.value.IsSettable
      ∧ setting.value = args.value
  := by
  rw [check, Except.bind_eq_ok, ← reason?_eq_none_iff]
  simp only [checkedCode_eq_ok]
  cases reason? args.value with
  | some reason => simp
  | none =>
    constructor
    · rintro ⟨parameter, hmeans, hpure⟩
      obtain rfl := Except.ok.inj hpure
      exact ⟨hmeans, rfl, rfl⟩
    · rintro ⟨hmeans, -, hvalue⟩
      rw [← hvalue]
      exact ⟨setting.parameter, hmeans, rfl⟩

theorem refuses_refuseRepeat {existing : List StorageParameter} {next : StorageParameter}
    {argument : String} :
  Refuses (refuseRepeat existing next) argument ↔ argument = "parameter" ∧ next ∈ existing
  := by
  rw [refuseRepeat]
  split_ifs with h
  · rw [refuses_error]
    exact (and_iff_left (List.contains_iff_mem.mp h)).symm
  · apply iff_of_false not_refuses_ok
    exact fun hrepeat => h (List.contains_iff_mem.mpr hrepeat.2)

theorem refuses_refuseConflict {existing : List TransactionMode} {next : TransactionMode}
    {argument : String} :
  Refuses (refuseConflict existing next) argument
    ↔ argument = "mode" ∧ ∃ prior ∈ existing, prior.group = next.group
  := by
  rw [refuseConflict]
  cases hfind : existing.find? fun prior => prior.group = next.group with
  | none =>
    rw [List.find?_eq_none] at hfind
    apply iff_of_false not_refuses_ok
    rintro ⟨-, prior, hprior, hgroup⟩
    exact hfind prior hprior (decide_eq_true hgroup)
  | some prior =>
    have hfound := List.find?_some hfind
    have hgroup : prior.group = next.group := of_decide_eq_true hfound
    rw [refuses_error]
    exact (and_iff_left ⟨prior, List.mem_of_find?_eq_some hfind, hgroup⟩).symm

namespace Clause

variable {α β : Type}

/-- The lists in which forms may exclude each other. -/
def IsExclusive : Clause → Prop
  | .mode | .setting _ | .resetting => True
  | _ => False

/-- Transaction modes exclude each other if they are of the same group, storage settings and
storage parameters if they name the same parameter. -/
def Excludes : (clause : Clause) → clause.Form α → clause.Form β → Prop
  | .mode, p, q => TransactionMode.group p = TransactionMode.group q
  | .setting _, p, q => Setting.parameter (α := α) p = Setting.parameter (α := β) q
  | .resetting, p, q => (p : StorageParameter) = q
  | _, _, _ => False

/-- The argument under whose name a form is refused that another one excludes. -/
def exclusiveArgument : Clause → String
  | .mode => "mode"
  | _ => "parameter"

/-- The arguments of such a list mean a form: the mode or the parameter is the one that they mean,
and the value is the given one, which a parameter can be set to. -/
def Means : (clause : Clause) → clause.Args → clause.Form Value → Prop
  | .mode, arg, chosen => CodeArg.Means (T := TransactionMode) arg chosen
  | .setting _, args, one =>
    (SettingArgs.parameter args).Means (Setting.parameter (α := Value) one)
      ∧ (SettingArgs.value args).IsSettable
      ∧ Setting.value (α := Value) one = SettingArgs.value args
  | .resetting, arg, parameter => CodeArg.Means (T := StorageParameter) arg parameter
  | _, _, _ => False

/-- A form is refused by the forms before it exactly if one of them excludes it. -/
theorem refuses_refuseAfter {clause : Clause} {forms : List (clause.Form α)}
    {next : clause.Form α} {argument : String} :
  Refuses (clause.refuseAfter forms next) argument
    ↔ argument = clause.exclusiveArgument ∧ ∃ prior ∈ forms, clause.Excludes prior next
  := by
  cases clause with
  | mode => exact refuses_refuseConflict
  | setting l => exact refuses_refuseRepeat.trans (and_congr Iff.rfl List.mem_map)
  | resetting => exact refuses_refuseRepeat.trans (and_congr Iff.rfl exists_eq_right.symm)
  | _ => simp [refuseAfter, not_refuses_ok, Excludes]

/-- The arguments of a list pass the check exactly if they mean a form. -/
theorem means_iff {clause : Clause} (h : clause.IsExclusive) {args : clause.Args}
    {checked : clause.Form Value} :
  clause.Means args checked ↔ clause.check args = .ok checked
  := by
  cases clause with
  | mode => exact (refusing_eq_ok.trans checkedCode_eq_ok).symm
  | setting l => exact (refusing_eq_ok.trans Setting.check_eq_ok).symm
  | resetting => exact (refusing_eq_ok.trans checkedCode_eq_ok).symm
  | _ => cases h

/-- What a form excludes does not depend on the literals. -/
theorem excludes_congr {clause : Clause} {prior : clause.Form Token} {form : clause.Form α}
    {form' : clause.Form β} (h : clause.traversal.shape form = clause.traversal.shape form') :
  clause.Excludes prior form ↔ clause.Excludes prior form'
  := by
  cases clause with
  | mode =>
    obtain rfl : (form : TransactionMode) = form' := h
    rfl
  | setting l =>
    have hparameter : Setting.parameter (α := α) form = Setting.parameter (α := β) form' :=
      congrArg Setting.parameter h
    show _ = Setting.parameter (α := α) form ↔ _
    rw [hparameter]
    rfl
  | resetting =>
    obtain rfl : (form : StorageParameter) = form' := h
    rfl
  | _ => rfl

end Clause

/-! ### Lists without conflicts -/

namespace Fragment

variable {clause : Clause} {arity : Arity} {fragment changed : Fragment clause arity}
  {registry after : Registry}

/-- No two forms of a fragment exclude each other. -/
def IsApart (fragment : Fragment clause arity) : Prop :=
  fragment.items.Pairwise fun p q => ¬ clause.Excludes p q

theorem isApart_of_items_eq_nil (h : fragment.items = []) :
  fragment.IsApart
  := by
  rw [IsApart, h]
  exact List.Pairwise.nil

/-- A form that is accepted is excluded by none of those before it. -/
theorem IsApart.of_succeeds_set (h : fragment.IsApart) {args : clause.Args}
    (hset : Succeeds (fragment.set (some args)) registry changed after) :
  changed.IsApart
  := by
  obtain ⟨form, -, haccept, hitems⟩ := Fragment.of_succeeds_set hset
  rw [IsApart, hitems]
  cases arity with
  | one => exact List.pairwise_singleton _ form
  | many =>
    apply List.pairwise_append.mpr
    use h, List.pairwise_singleton _ form
    intro prior hprior next hnext hexcludes
    rw [List.mem_singleton.mp hnext] at hexcludes
    have hrefuses := Clause.refuses_refuseAfter.mpr ⟨rfl, prior, hprior, hexcludes⟩
    obtain ⟨reason, hrefused⟩ := hrefuses
    cases haccept.symm.trans hrefused

section Many

variable {fragment : Fragment clause .many} {args : clause.Args} {next : clause.Form Value}

/-- The form that arguments are bound to is excluded by the forms that exclude what they mean. -/
theorem refuses_accept_iff (hmeans : clause.check args = .ok next) {form : clause.Form Token}
    (hbind : Succeeds (clause.bind args) registry form after) {argument : String} :
  Refuses (fragment.accept form) argument
    ↔ argument = clause.exclusiveArgument
      ∧ ∃ prior ∈ fragment.items, clause.Excludes prior next
  := by
  obtain ⟨checked, hbound⟩ := clause.of_succeeds_bind hbind
  obtain rfl := Except.ok.inj (hmeans.symm.trans hbound.check_eq)
  refine Clause.refuses_refuseAfter.trans (and_congr_right' ?_)
  simp only [Clause.excludes_congr hbound.shape_eq]

/-- Arguments that mean a form are refused if another form excludes it. -/
theorem fails_set_of_excludes
    (hroom : registry.HasRoom (clause.supplied Query.values args).length)
    (hmeans : clause.check args = .ok next)
    (h : ∃ prior ∈ fragment.items, clause.Excludes prior next) :
  ∃ reason, Fails (fragment.set (some args)) registry
    (.invalidArgument clause.function ⟨clause.exclusiveArgument, reason⟩) registry
  := by
  obtain ⟨form, between, hbind⟩ := Clause.succeeds_bind_of_check hroom hmeans
  obtain ⟨reason, hrefused⟩ := (refuses_accept_iff hmeans hbind).mpr ⟨rfl, h⟩
  use reason
  apply fails_set_iff.mpr
  exact ⟨rfl, between, fails_add_iff.mpr (Or.inr ⟨form, hbind, _, hrefused, rfl⟩)⟩

/-- With room for the literals, they are refused for nothing else. -/
theorem of_fails_set_of_check
    (hroom : registry.HasRoom (clause.supplied Query.values args).length)
    (hmeans : clause.check args = .ok next) {e : Error}
    (h : Fails (fragment.set (some args)) registry e after) :
  after = registry ∧ (∃ prior ∈ fragment.items, clause.Excludes prior next)
    ∧ ∃ reason, e = .invalidArgument clause.function ⟨clause.exclusiveArgument, reason⟩
  := by
  obtain ⟨rfl, between, hadd⟩ := fails_set_iff.mp h
  use rfl
  obtain hbind | ⟨form, hbind, ⟨argument, reason⟩, hrefused, rfl⟩ := fails_add_iff.mp hadd
  · obtain ⟨form, final, hsucceeds⟩ := Clause.succeeds_bind_of_check hroom hmeans
    cases hsucceeds.2.symm.trans hbind.2
  · obtain ⟨rfl, hprior⟩ := (refuses_accept_iff hmeans hbind).mp ⟨reason, hrefused⟩
    exact ⟨hprior, reason, rfl⟩

end Many

end Fragment

namespace Workbench

variable {bench changed : Workbench} {chronicle next : Chronicle}

/-- No effect brings a conflict into a fragment. -/
theorem isApart_of_effect
    (h : ∀ f held, bench.fragments f = some held → held.fragment.IsApart)
    (heffect : bench.Effect chronicle changed next) :
  ∀ f held, changed.fragments f = some held → held.fragment.IsApart
  := by
  cases heffect with
  | stays | goesOn | creates | resets => exact h
  | empties f hitems =>
    intro other held hheld
    obtain rfl | hold := Slots.of_put_eq_some hheld
    · exact Fragment.isApart_of_items_eq_nil hitems
    · exact h other held hold
  | sets hf hr hset =>
    intro other held hheld
    obtain rfl | hold := Slots.of_put_eq_some hheld
    · exact (h _ _ hf).of_succeeds_set hset
    · exact h other held hold

/-- After every run of commands, no two forms of a fragment exclude each other. -/
theorem isApart_run
    (h : ∀ f held, bench.fragments f = some held → held.fragment.IsApart)
    (commands : List Command) :
  ∀ f held, (bench.run commands).1.fragments f = some held → held.fragment.IsApart
  := by
  induction commands generalizing bench with
  | nil => exact h
  | cons command commands ih =>
    exact ih (isApart_of_effect h (bench.effect_step Chronicle.empty command))

end Workbench

/-! ### Several parameters at once -/

/-- The list of the parameters is not empty and names none of them twice. -/
def TableAction.NamesDistinct {α : Type} : TableAction α → Prop
  | .setStorage settings => settings ≠ [] ∧ (settings.map Setting.parameter).Nodup
  | .resetStorage parameters => parameters ≠ [] ∧ parameters.Nodup
  | _ => True

/-- The storage parameters that the arguments of an action name. -/
def TableActionArgs.parameters : TableActionArgs → List (CodeArg StorageParameter)
  | .setStorage args => args.map SettingArgs.parameter
  | .resetStorage args => args
  | _ => []

theorem refuses_refuseRepeats {existing parameters : List StorageParameter} {argument : String} :
  Refuses (refuseRepeats existing parameters) argument
    ↔ argument = "parameter" ∧ ¬ (parameters.Nodup ∧ existing.Disjoint parameters)
  := by
  induction parameters generalizing existing with
  | nil => simp [refuseRepeats, not_refuses_ok]
  | cons next rest ih =>
    have hnext : ∀ name, Refuses (refuseRepeat existing next) name
        ↔ name = "parameter" ∧ ¬ next ∉ existing := by
      intro name
      rw [refuses_refuseRepeat, not_not]
    rw [refuseRepeats, refuses_bind_iff hnext fun _ => ih, List.nodup_cons,
      List.disjoint_append_left, List.disjoint_cons_right, List.singleton_disjoint]
    tauto

/-- A batch of parameters is accepted only if none is repeated. -/
theorem nodup_of_refuseRepeats {parameters : List StorageParameter} {u : Unit}
    (h : refuseRepeats [] parameters = .ok u) :
  parameters.Nodup
  := by
  have hnone := exists_ok_iff_not_refuses.mp ⟨u, h⟩ "parameter"
  rw [refuses_refuseRepeats] at hnone
  exact (not_not.mp fun hrepeats => hnone ⟨rfl, hrepeats⟩).1

theorem nodup_map_ok {parameters : List StorageParameter} (h : parameters.Nodup) :
  (parameters.map (Except.ok (ε := Int))).Nodup
  := h.map fun _ _ => Except.ok.inj

theorem of_checkSettings {args : List SettingArgs} {settings : List (Setting Value)}
    (h : checkSettings args = .ok settings) :
  (settings.map Setting.parameter).Nodup
    ∧ (settings.map Setting.parameter).map Except.ok
      = (args.map SettingArgs.parameter).map CodeArg.resolve
  := by
  obtain ⟨checked, hchecked, hrest⟩ := Except.bind_eq_ok.mp h
  obtain ⟨_, hrepeats, hpure⟩ := Except.bind_eq_ok.mp hrest
  obtain rfl := Except.ok.inj hpure
  use nodup_of_refuseRepeats hrepeats
  rw [List.map_map, List.map_map]
  refine Except.map_eq_map_of_mapM (fun one setting hone => ?_) hchecked
  exact (CodeArg.resolve_eq_ok.mpr (Setting.check_eq_ok.mp hone).1).symm

theorem of_checkParameters {args : List (CodeArg StorageParameter)}
    {parameters : List StorageParameter} (h : checkParameters args = .ok parameters) :
  parameters.Nodup ∧ parameters.map Except.ok = args.map CodeArg.resolve
  := by
  obtain ⟨checked, hchecked, hrest⟩ := Except.bind_eq_ok.mp h
  obtain ⟨_, hrepeats, hpure⟩ := Except.bind_eq_ok.mp hrest
  obtain rfl := Except.ok.inj hpure
  use nodup_of_refuseRepeats hrepeats
  refine Except.map_eq_map_of_mapM (fun arg parameter harg => ?_) hchecked
  exact (CodeArg.resolve_eq_ok.mpr (checkedCode_eq_ok.mp harg)).symm

/-- An accepted batch names some parameters and none twice, however they are spelled. -/
theorem TableAction.of_check {args : TableActionArgs} {act : TableAction Value}
    (h : TableAction.check args = .ok act) :
  act.NamesDistinct ∧ (args.parameters.map CodeArg.resolve).Nodup
  := by
  match args with
  | .setStorage [] => cases h
  | .resetStorage [] => cases h
  | .setStorage (first :: rest) =>
    obtain ⟨settings, hsettings, rfl⟩ := Except.map_eq_ok.mp h
    obtain ⟨hnodup, hresolve⟩ := of_checkSettings hsettings
    constructor
    · refine ⟨?_, hnodup⟩
      rintro rfl
      cases hresolve
    · rw [TableActionArgs.parameters, ← hresolve]
      exact nodup_map_ok hnodup
  | .resetStorage (first :: rest) =>
    obtain ⟨parameters, hparameters, rfl⟩ := Except.map_eq_ok.mp h
    obtain ⟨hnodup, hresolve⟩ := of_checkParameters hparameters
    constructor
    · refine ⟨?_, hnodup⟩
      rintro rfl
      cases hresolve
    · rw [TableActionArgs.parameters, ← hresolve]
      exact nodup_map_ok hnodup
  | .addColumn args =>
    obtain ⟨_, -, rfl⟩ := Except.map_eq_ok.mp h
    exact ⟨trivial, List.nodup_nil⟩
  | .alterColumn args =>
    obtain ⟨_, -, rfl⟩ := Except.map_eq_ok.mp h
    exact ⟨trivial, List.nodup_nil⟩
  | .dropColumn args =>
    obtain ⟨_, -, rfl⟩ := Except.map_eq_ok.mp h
    exact ⟨trivial, List.nodup_nil⟩

/-- Which parameters an action names does not depend on its literals. -/
theorem TableAction.namesDistinct_map {α β : Type} (f : α → β) (act : TableAction α) :
  (TableAction.traversal.map f act).NamesDistinct ↔ act.NamesDistinct
  := by
  cases act with
  | setStorage settings =>
    show TableAction.NamesDistinct (.setStorage (Setting.traversal.list.map f settings)) ↔ _
    have hparameters : (settings.map (Setting.traversal.map f)).map Setting.parameter
        = settings.map Setting.parameter := List.map_map
    rw [Traversal.list_map, NamesDistinct, NamesDistinct, hparameters, Ne, List.map_eq_nil_iff]
  | _ => rfl

/-- The action that is bound names some parameters and none twice. -/
theorem TableAction.namesDistinct_of_succeeds_bind {args : TableActionArgs}
    {act : TableAction Token} {registry changed : Registry}
    (h : Succeeds (Clause.action.bind args) registry act changed) :
  act.NamesDistinct
  := by
  obtain ⟨checked, hbound⟩ := Clause.of_succeeds_bind _ h
  have hchecked := (of_check (Clause.refusing_eq_ok.mp hbound.check_eq)).1
  have hshape : TableAction.traversal.shape act = TableAction.traversal.shape checked :=
    hbound.shape_eq
  apply (namesDistinct_map (fun _ => ()) act).mp
  show (TableAction.traversal.shape act).NamesDistinct
  rw [hshape]
  exact (namesDistinct_map _ _).mpr hchecked

theorem Clause.check_action (args : TableActionArgs) :
  Clause.action.check args = refusing args.function (TableAction.check args)
  := rfl

/-- A batch with a repeat is refused, wherever the two occurrences stand and however they are
spelled. -/
theorem TableAction.fails_bind_of_repeat {args : TableActionArgs}
    {first second : CodeArg StorageParameter}
    (hstand : List.Sublist [first, second] args.parameters) {parameter : StorageParameter}
    (hfirst : first.Means parameter) (hsecond : second.Means parameter) (registry : Registry) :
  ∃ argument reason, Fails (Clause.action.bind args) registry
    (.invalidArgument "table_action" ⟨argument, reason⟩) registry
  := by
  have hrefuses : ∃ argument, Refuses (check args) argument := by
    by_contra hnone
    obtain ⟨act, hact⟩ := exists_ok_iff_not_refuses.mpr (not_exists.mp hnone)
    have hnodup := ((of_check hact).2).sublist (hstand.map CodeArg.resolve)
    rw [List.map_cons, List.map_singleton, CodeArg.resolve_eq_ok.mpr hfirst,
      CodeArg.resolve_eq_ok.mpr hsecond] at hnodup
    simp at hnodup
  have hfunction : args.function = "table_action" := by
    cases args with
    | setStorage | resetStorage => rfl
    | _ => cases hstand
  obtain ⟨argument, hargument⟩ := hrefuses
  rw [← hfunction]
  exact ⟨argument,
    Clause.exists_fails_bind_of_refuses (Clause.check_action args) hargument registry⟩

/-! ### All lists -/

/-- What is kept of arguments in a list: the form that they mean, with tokens by which the
registries that are still in the era know the value. -/
theorem Holding.IsKept.exists_means {bench : Workbench} {chronicle : Chronicle} {clause : Clause}
    (hclause : clause.IsExclusive) {form : clause.Form Token} {holding : Holding}
    (h : holding.IsKept bench chronicle clause form) :
  ∃ args era, holding = ⟨clause, args, era⟩
    ∧ (∃ checked, clause.Means args checked
      ∧ clause.traversal.shape form = clause.traversal.shape checked)
    ∧ ∀ r registry, bench.registries r = some registry → chronicle.begun r = era →
      (clause.literals form).map registry.lookup
        = (clause.supplied Query.values args).map some
  := by
  obtain ⟨-, ⟨checked, hcheck, hshape⟩, hkept⟩ := h
  refine ⟨_, _, rfl, ⟨checked, (Clause.means_iff hclause).mpr hcheck, hshape⟩, ?_⟩
  intro r registry hr hbegun
  obtain ⟨found, hfound, -, hlookup⟩ := (hkept r registry hr hbegun).exists_checked
  rw [hlookup, Clause.literals_of_check clause hfound]

/-- Lists exclude repeats.  After every run of commands, a list of transaction modes or of storage
parameters consists of what the arguments mean that it has accepted since it was cleared last, in
order, and no two of its forms exclude each other.  With any registry that has room for the value,
arguments that mean a form are refused exactly if a form of the list excludes it; then they are
refused under the name of the mode or the parameter, and leave no token.

An action that sets or resets several storage parameters at once is accepted only if it names some
and none twice.  All arguments with a repeat are refused, wherever the two stand and however they
are spelled. -/
theorem lists_exclude_repeats :
  (∀ commands : List Command,
    let final := (Workbench.empty.run commands).1
    let chronicle := Chronicle.empty.along Workbench.empty commands
    ∀ f (clause : Clause) (fragment : Fragment clause .many), clause.IsExclusive →
      final.fragments f = some ⟨clause, .many, fragment⟩ →
      List.Forall₂ (fun form holding => ∃ args era, holding = ⟨clause, args, era⟩
          ∧ (∃ checked, clause.Means args checked
            ∧ clause.traversal.shape form = clause.traversal.shape checked)
          ∧ ∀ r registry, final.registries r = some registry → chronicle.begun r = era →
            (clause.literals form).map registry.lookup
              = (clause.supplied Query.values args).map some)
        fragment.items (chronicle.held f)
      ∧ fragment.items.Pairwise (fun p q => ¬ clause.Excludes p q)
      ∧ ∀ (registry : Registry) (args : clause.Args) (checked : clause.Form Value),
        registry.HasRoom (clause.supplied Query.values args).length →
        clause.Means args checked →
        ((∃ e after, Fails (fragment.set (some args)) registry e after)
            ↔ ∃ prior ∈ fragment.items, clause.Excludes prior checked)
          ∧ ∀ e after, Fails (fragment.set (some args)) registry e after →
            after = registry ∧ ∃ reason,
              e = .invalidArgument clause.function ⟨clause.exclusiveArgument, reason⟩)
  ∧ (∀ (args : TableActionArgs) (registry changed : Registry) (act : TableAction Token),
      Succeeds (Clause.action.bind args) registry act changed → act.NamesDistinct)
  ∧ ∀ (args : TableActionArgs) (first second : CodeArg StorageParameter) parameter,
      List.Sublist [first, second] args.parameters →
      first.Means parameter → second.Means parameter →
      ∀ registry, ∃ argument reason, Fails (Clause.action.bind args) registry
        (.invalidArgument "table_action" ⟨argument, reason⟩) registry
  := by
  constructor
  · intro commands final chronicle f clause fragment hclause hf
    have hkeeps := (Workbench.keeps_empty.run commands).forall₂_isKept f _ hf
    constructor
    · exact hkeeps.imp fun form holding h => h.exists_means hclause
    constructor
    · have hempty : ∀ f held, Workbench.empty.fragments f = some held →
          held.fragment.IsApart := nofun
      exact Workbench.isApart_run hempty commands f _ hf
    · intro registry args checked hroom hmeans
      have hcheck := (Clause.means_iff hclause).mp hmeans
      constructor
      · constructor
        · rintro ⟨e, after, h⟩
          exact (Fragment.of_fails_set_of_check hroom hcheck h).2.1
        · intro h
          obtain ⟨reason, hfails⟩ := Fragment.fails_set_of_excludes hroom hcheck h
          exact ⟨_, _, hfails⟩
      · intro e after h
        obtain ⟨hafter, -, hreason⟩ := Fragment.of_fails_set_of_check hroom hcheck h
        exact ⟨hafter, hreason⟩
  constructor
  · exact fun args registry changed act => TableAction.namesDistinct_of_succeeds_bind
  · exact fun args first second parameter hstand hfirst hsecond =>
      TableAction.fails_bind_of_repeat hstand hfirst hsecond

/-- Commands that set transaction modes by variant and by number, the last of which is refused. -/
def modeCommands : List Command :=
  [.new "a" {}, .fragment "f" .mode .many, .set "f" "a" .mode (some (.variant .serializable)),
    .set "f" "a" .mode (some (.code 7)), .set "f" "a" .mode (some (.variant .readOnly))]

theorem lists_exclude_repeats_of_modeCommands :
  ∃ fragment : Fragment .mode .many,
    (Workbench.empty.run modeCommands).1.fragments "f" = some ⟨.mode, .many, fragment⟩
      ∧ fragment.items = [TransactionMode.serializable, TransactionMode.readWrite]
      ∧ (∃ e after, Fails (fragment.set (some (.code 3))) (Registry.new {} 1) e after)
      ∧ ∀ registry, ∃ argument reason,
        Fails (Clause.action.bind
            (.resetStorage [.code 1, .variant .fillFactor, .variant .autosummarize]))
          registry (.invalidArgument "table_action" ⟨argument, reason⟩) registry
  := by
  have hf : (Workbench.empty.run modeCommands).1.fragments "f"
      = some ⟨.mode, .many, ⟨[TransactionMode.serializable, TransactionMode.readWrite]⟩⟩ := by
    rfl
  refine ⟨_, hf, rfl, ?_, ?_⟩
  · obtain ⟨-, -, hset⟩ := lists_exclude_repeats.1 modeCommands "f" .mode _ trivial hf
    apply (hset (Registry.new {} 1) (.code 3) TransactionMode.readCommitted ?_ ?_).1.mpr
    · exact ⟨_, List.mem_cons_self, rfl⟩
    · exact Registry.hasRoom_new (by decide) (by decide)
    · exact CodeArg.Means.code TransactionMode.readCommitted
  · exact lists_exclude_repeats.2.2 _ (.code 1) (.variant .autosummarize) .autosummarize
      (by decide) (.code StorageParameter.autosummarize) (.variant _)

end BoundSql
