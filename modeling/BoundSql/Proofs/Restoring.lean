import BoundSql.Proofs.Checking

/-!
# Restoring arguments

A checked form has all that the arguments of its clause have said: `Clause.restore` puts
the arguments together again from a form with values in the places of its literals.  What
comes back are the arguments that have been checked, with each number of a variant replaced
by the variant (`Clause.restore_of_check`).  Only of a query, whose text a form keeps with
references in the places of its tokens, the arguments do not come back in this way.
-/

namespace BoundSql

/-! ### Naming variants -/

/-- The choice, made by variant where there is one. -/
def CodeArg.normalise {T : Type} [Coded T] (arg : CodeArg T) : CodeArg T :=
  match arg.resolve with
  | .ok t => .variant t
  | .error _ => arg

theorem normalise_of_checkedCode {T : Type} [Coded T] {argument : String} {arg : CodeArg T}
    {t : T} (h : checkedCode argument arg = .ok t) :
  arg.normalise = .variant t
  := by
  rw [checkedCode] at h
  rw [CodeArg.normalise]
  cases hresolve : arg.resolve with
  | error n =>
    rw [hresolve] at h
    contradiction
  | ok t' =>
    rw [hresolve] at h
    rw [Except.ok.inj h]

theorem map_normalise_of_checkedCode? {T : Type} [Coded T] {argument : String}
    {arg : Option (CodeArg T)} {t : Option T} (h : checkedCode? argument arg = .ok t) :
  arg.map CodeArg.normalise = t.map .variant
  := by
  cases arg with
  | none =>
    obtain rfl := Except.ok.inj h
    rfl
  | some arg =>
    obtain ⟨t, ht, rfl⟩ := Except.map_eq_ok.mp h
    rw [Option.map_some, Option.map_some, normalise_of_checkedCode ht]

/-- The variant with a number has this number. -/
theorem Coded.code_of_ofCode? {T : Type} [Coded T] [LawfulBEq T]
    (hnodup : (Coded.all (T := T)).Nodup) {n : Int} {t : T} (h : Coded.ofCode? n = some t) :
  (Coded.code t : Int) = n
  := by
  rw [ofCode?] at h
  split_ifs at h with hpos
  obtain ⟨hlt, rfl⟩ := List.getElem?_eq_some_iff.mp h
  rw [code, hnodup.idxOf_getElem]
  omega

theorem code_of_checkedCode {argument : String} {n : Int} {mode : StorageMode}
    (h : checkedCode argument (.code n) = .ok mode) :
  (Coded.code mode : Int) = n
  := by
  have hnormalise := normalise_of_checkedCode h
  rw [CodeArg.normalise, CodeArg.resolve] at hnormalise
  cases hcode : Coded.ofCode? (T := StorageMode) n with
  | none =>
    rw [hcode] at hnormalise
    contradiction
  | some found =>
    rw [hcode] at hnormalise
    obtain rfl := CodeArg.variant.inj hnormalise
    apply Coded.code_of_ofCode? (by decide) hcode

/-! ### Texts -/

theorem mapM_asText?_option (text : Option String) :
  (text.map Value.text).mapM Value.asText? = some text
  := by
  cases text with
  | none => rfl
  | some s => rfl

theorem mapM_asText?_list (texts : List String) :
  (texts.map Value.text).mapM Value.asText? = some texts
  := by
  induction texts with
  | nil => rfl
  | cons s texts ih =>
    rw [List.map_cons, List.mapM_cons, ih]
    rfl

/-! ### Records -/

/-- The arguments of a role, with its kind as a variant. -/
def RoleArgs.normalise (args : RoleArgs) : RoleArgs := { args with kind := args.kind.normalise }

/-- The arguments of a role. -/
def RoleSpec.restore (role : RoleSpec Value) : Option RoleArgs := do
  let name ← role.name.mapM Value.asText?
  pure ⟨.variant role.kind, name⟩

theorem RoleSpec.normalise_kind_of_check {allowed : List RoleKind} {args : RoleArgs}
    {role : RoleSpec Value} (h : RoleSpec.check allowed args = .ok role) :
  args.kind.normalise = .variant role.kind
  := by
  obtain ⟨kind, hkind, hrest⟩ := Except.bind_eq_ok.mp h
  split_ifs at hrest
  obtain ⟨name, -, hpure⟩ := Except.bind_eq_ok.mp hrest
  obtain rfl := Except.ok.inj hpure
  apply normalise_of_checkedCode hkind

theorem RoleSpec.restore_of_check {allowed : List RoleKind} {args : RoleArgs}
    {role : RoleSpec Value} (h : RoleSpec.check allowed args = .ok role) :
  role.restore = some args.normalise
  := by
  have hname : role.name = args.name.map .text := by
    have hliterals := congrArg List.head? (literals_of_check h)
    rwa [literals, RoleArgs.supplied, ← Option.toList_map, Option.head?_toList,
      Option.head?_toList] at hliterals
  rw [restore, hname, mapM_asText?_option, RoleArgs.normalise, normalise_kind_of_check h]
  rfl

/-- The arguments of a storage setting, with its parameter as a variant. -/
def SettingArgs.normalise (args : SettingArgs) : SettingArgs :=
  { args with parameter := args.parameter.normalise }

/-- The arguments of a storage setting. -/
def Setting.restore (setting : Setting Value) : SettingArgs :=
  ⟨.variant setting.parameter, setting.value⟩

theorem Setting.restore_of_check {args : SettingArgs} {setting : Setting Value}
    (h : Setting.check args = .ok setting) :
  setting.restore = args.normalise
  := by
  obtain ⟨parameter, hparameter, hrest⟩ := Except.bind_eq_ok.mp h
  split at hrest
  next => contradiction
  next =>
    obtain rfl := Except.ok.inj hrest
    rw [restore, SettingArgs.normalise, normalise_of_checkedCode hparameter]

theorem TableTarget.restore_of_check {args : TableTarget String} {table : TableTarget Value}
    (h : TableTarget.check args = .ok table) :
  table.traverse Value.asText? = some args
  := by
  obtain ⟨_, -, hrest⟩ := Except.bind_eq_ok.mp h
  obtain ⟨name, hname, hpure⟩ := Except.bind_eq_ok.mp hrest
  obtain rfl := Except.ok.inj hpure
  rw [(checkedText_eq_ok.mp hname).2]
  rfl

theorem AddColumn.restore_of_check {args : AddColumn String} {add : AddColumn Value}
    (h : AddColumn.check args = .ok add) :
  add.traverse Value.asText? = some args
  := by
  obtain ⟨column, hcolumn, hrest⟩ := Except.bind_eq_ok.mp h
  obtain ⟨dataType, hdataType, hrest⟩ := Except.bind_eq_ok.mp hrest
  obtain ⟨collation, hcollation, hrest⟩ := Except.bind_eq_ok.mp hrest
  obtain ⟨constraints, hconstraints, hpure⟩ := Except.bind_eq_ok.mp hrest
  obtain rfl := Except.ok.inj hpure
  rw [(checkedText_eq_ok.mp hcolumn).2, (checkedText_eq_ok.mp hdataType).2,
    checkedText?_eq_ok hcollation, mapM_checkedText_eq_ok hconstraints, traverse,
    mapM_asText?_option, mapM_asText?_list]
  rfl

/-- The arguments for dropping a column, with the rule as a variant. -/
def DropColumnArgs.normalise (args : DropColumnArgs) : DropColumnArgs :=
  { args with cascade := args.cascade.map CodeArg.normalise }

/-- The arguments for dropping a column. -/
def DropColumn.restore (drop : DropColumn Value) : Option DropColumnArgs := do
  let column ← drop.column.asText?
  pure ⟨column, drop.ifExists, drop.cascade.map .variant⟩

theorem DropColumn.restore_of_check {args : DropColumnArgs} {drop : DropColumn Value}
    (h : DropColumn.check args = .ok drop) :
  drop.restore = some args.normalise
  := by
  obtain ⟨column, hcolumn, hrest⟩ := Except.bind_eq_ok.mp h
  obtain ⟨rule, hrule, hpure⟩ := Except.bind_eq_ok.mp hrest
  obtain rfl := Except.ok.inj hpure
  rw [(checkedText_eq_ok.mp hcolumn).2, restore, DropColumnArgs.normalise,
    map_normalise_of_checkedCode? hrule]
  rfl

theorem RenameColumn.restore_of_check {args : RenameColumn String}
    {rename : RenameColumn Value} (h : RenameColumn.check args = .ok rename) :
  rename.traverse Value.asText? = some args
  := by
  obtain ⟨column, hcolumn, hrest⟩ := Except.bind_eq_ok.mp h
  obtain ⟨newName, hnewName, hpure⟩ := Except.bind_eq_ok.mp hrest
  obtain rfl := Except.ok.inj hpure
  rw [(checkedText_eq_ok.mp hcolumn).2, (checkedText_eq_ok.mp hnewName).2]
  rfl

/-! ### Changes of a column -/

/-- The value and the collation that come with a change. -/
def ColumnAction.restore :
    ColumnAction Value → Option (Option ColumnValue × Option String)
  | .dropNotNull | .dropDefault | .setNotNull => some (none, none)
  | .setDataType dataType collation => do
    let s ← dataType.asText?
    let collation ← collation.mapM Value.asText?
    pure (some (.text s), collation)
  | .setDefault default => do
    let s ← default.asText?
    pure (some (.text s), none)
  | .setStatistics target => some (some (.int target), none)
  | .setStorage mode => some (some (.int (.ofNat (Coded.code mode))), none)

/-- The arguments for altering a column, with the change as a variant. -/
def AlterColumnArgs.normalise (args : AlterColumnArgs) : AlterColumnArgs :=
  { args with change := args.change.normalise }

/-- The arguments for altering a column. -/
def AlterColumn.restore (alter : AlterColumn Value) : Option AlterColumnArgs := do
  let column ← alter.column.asText?
  let (value, collation) ← alter.action.restore
  pure ⟨column, .variant alter.action.change, value, collation⟩

theorem ColumnAction.eq_text_of_checkTextValue {change : ColumnChange}
    {value : Option ColumnValue} {text : Value} (h : checkTextValue change value = .ok text) :
  ∃ s, value = some (.text s) ∧ text = .text s
  := by
  match value with
  | some (.text s) => exact ⟨s, rfl, (checkedText_eq_ok.mp h).2⟩
  | some (.int n) => contradiction
  | none => contradiction

theorem ColumnAction.eq_int_of_checkIntValue {change : ColumnChange}
    {value : Option ColumnValue} {n : Int64} (h : checkIntValue change value = .ok n) :
  value = some (.int n)
  := by
  match value with
  | some (.int m) => rw [Except.ok.inj h]
  | some (.text s) => contradiction
  | none => contradiction

theorem ColumnAction.eq_of_checkStatistics {n target : Int64}
    (h : checkStatistics n = .ok target) :
  target = n
  := by
  rw [checkStatistics] at h
  split_ifs at h
  exact (Except.ok.inj h).symm

theorem ColumnAction.restore_of_check {change : ColumnChange} {value : Option ColumnValue}
    {collation : Option String} {action : ColumnAction Value}
    (h : ColumnAction.check change value collation = .ok action) :
  action.change = change ∧ action.restore = some (value, collation)
  := by
  obtain ⟨_, hcollation, hrest⟩ := Except.bind_eq_ok.mp h
  cases change with
  | dropNotNull | dropDefault | setNotNull =>
    obtain ⟨_, hvalue, hpure⟩ := Except.bind_eq_ok.mp hrest
    obtain rfl := Except.ok.inj hpure
    rw [eq_none_of_checkCollation hcollation (by decide), eq_none_of_checkNoValue hvalue]
    exact ⟨rfl, rfl⟩
  | setDataType =>
    obtain ⟨name, hname, hrest⟩ := Except.bind_eq_ok.mp hrest
    obtain ⟨dataType, hdataType, hpure⟩ := Except.bind_eq_ok.mp hrest
    obtain rfl := Except.ok.inj hpure
    obtain ⟨s, rfl, rfl⟩ := eq_text_of_checkTextValue hdataType
    use rfl
    rw [restore, checkedText?_eq_ok hname, mapM_asText?_option]
    rfl
  | setDefault =>
    obtain ⟨default, hdefault, hpure⟩ := Except.bind_eq_ok.mp hrest
    obtain rfl := Except.ok.inj hpure
    obtain ⟨s, rfl, rfl⟩ := eq_text_of_checkTextValue hdefault
    rw [eq_none_of_checkCollation hcollation (by decide)]
    exact ⟨rfl, rfl⟩
  | setStatistics =>
    obtain ⟨n, hn, hrest⟩ := Except.bind_eq_ok.mp hrest
    obtain ⟨target, htarget, hpure⟩ := Except.bind_eq_ok.mp hrest
    obtain rfl := Except.ok.inj hpure
    rw [eq_none_of_checkCollation hcollation (by decide), eq_int_of_checkIntValue hn,
      eq_of_checkStatistics htarget]
    exact ⟨rfl, rfl⟩
  | setStorage =>
    obtain ⟨code, hcode, hrest⟩ := Except.bind_eq_ok.mp hrest
    obtain ⟨mode, hmode, hpure⟩ := Except.bind_eq_ok.mp hrest
    obtain rfl := Except.ok.inj hpure
    have hnumber : Int64.ofNat (Coded.code mode) = code := by
      rw [← Int64.ofInt_toInt code, ← code_of_checkedCode hmode]
      rfl
    rw [eq_none_of_checkCollation hcollation (by decide), eq_int_of_checkIntValue hcode, restore,
      hnumber]
    exact ⟨rfl, rfl⟩

theorem AlterColumn.restore_of_check {args : AlterColumnArgs} {alter : AlterColumn Value}
    (h : AlterColumn.check args = .ok alter) :
  alter.restore = some args.normalise
  := by
  obtain ⟨change, hchange, hrest⟩ := Except.bind_eq_ok.mp h
  obtain ⟨column, hcolumn, hrest⟩ := Except.bind_eq_ok.mp hrest
  obtain ⟨action, haction, hpure⟩ := Except.bind_eq_ok.mp hrest
  obtain rfl := Except.ok.inj hpure
  obtain ⟨hsame, hrestore⟩ := ColumnAction.restore_of_check haction
  rw [(checkedText_eq_ok.mp hcolumn).2, restore, hrestore, hsame, AlterColumnArgs.normalise,
    normalise_of_checkedCode hchange]
  rfl

/-! ### Actions on a table -/

/-- The arguments of an action, with its choices as variants. -/
def TableActionArgs.normalise : TableActionArgs → TableActionArgs
  | .addColumn args => .addColumn args
  | .alterColumn args => .alterColumn args.normalise
  | .dropColumn args => .dropColumn args.normalise
  | .setStorage args => .setStorage (args.map SettingArgs.normalise)
  | .resetStorage args => .resetStorage (args.map CodeArg.normalise)

/-- The arguments of an action. -/
def TableAction.restore : TableAction Value → Option TableActionArgs
  | .addColumn add => (add.traverse Value.asText?).map .addColumn
  | .alterColumn alter => alter.restore.map .alterColumn
  | .dropColumn drop => drop.restore.map .dropColumn
  | .setStorage settings => some (.setStorage (settings.map Setting.restore))
  | .resetStorage parameters => some (.resetStorage (parameters.map .variant))

theorem restore_of_checkSettings {args : List SettingArgs} {settings : List (Setting Value)}
    (h : checkSettings args = .ok settings) :
  settings.map Setting.restore = args.map SettingArgs.normalise
  := by
  obtain ⟨checked, hchecked, hrest⟩ := Except.bind_eq_ok.mp h
  obtain ⟨_, -, hpure⟩ := Except.bind_eq_ok.mp hrest
  obtain rfl := Except.ok.inj hpure
  apply Except.map_eq_map_of_mapM (fun _ _ => Setting.restore_of_check) hchecked

theorem restore_of_checkParameters {args : List (CodeArg StorageParameter)}
    {parameters : List StorageParameter} (h : checkParameters args = .ok parameters) :
  parameters.map CodeArg.variant = args.map CodeArg.normalise
  := by
  obtain ⟨checked, hchecked, hrest⟩ := Except.bind_eq_ok.mp h
  obtain ⟨_, -, hpure⟩ := Except.bind_eq_ok.mp hrest
  obtain rfl := Except.ok.inj hpure
  apply Except.map_eq_map_of_mapM (fun _ _ hcode => (normalise_of_checkedCode hcode).symm) hchecked

theorem TableAction.restore_of_check {args : TableActionArgs} {act : TableAction Value}
    (h : TableAction.check args = .ok act) :
  act.restore = some args.normalise
  := by
  match args with
  | .addColumn args =>
    obtain ⟨add, hadd, rfl⟩ := Except.map_eq_ok.mp h
    rw [restore, AddColumn.restore_of_check hadd]
    rfl
  | .alterColumn args =>
    obtain ⟨alter, halter, rfl⟩ := Except.map_eq_ok.mp h
    rw [restore, AlterColumn.restore_of_check halter]
    rfl
  | .dropColumn args =>
    obtain ⟨drop, hdrop, rfl⟩ := Except.map_eq_ok.mp h
    rw [restore, DropColumn.restore_of_check hdrop]
    rfl
  | .setStorage [] => contradiction
  | .setStorage (first :: args) =>
    obtain ⟨settings, hsettings, rfl⟩ := Except.map_eq_ok.mp h
    rw [restore, restore_of_checkSettings hsettings]
    rfl
  | .resetStorage [] => contradiction
  | .resetStorage (first :: args) =>
    obtain ⟨parameters, hparameters, rfl⟩ := Except.map_eq_ok.mp h
    rw [restore, restore_of_checkParameters hparameters]
    rfl

/-! ### All clauses -/

namespace Clause

/-- The arguments of a clause, with its choices as variants. -/
def normalise : (clause : Clause) → clause.Args → clause.Args
  | .cascade, arg => CodeArg.normalise (T := Cascade) arg
  | .transactionAction, arg => CodeArg.normalise (T := TransactionAction) arg
  | .resetting, arg => CodeArg.normalise (T := StorageParameter) arg
  | .mode, arg => CodeArg.normalise (T := TransactionMode) arg
  | .role _, args => RoleArgs.normalise args
  | .setting _, args => SettingArgs.normalise args
  | .dropColumn, args => DropColumnArgs.normalise args
  | .alterColumn, args => AlterColumnArgs.normalise args
  | .action, args => TableActionArgs.normalise args
  | .flag _, args | .cycle, args | .quantity _, args | .limit _, args | .literal _, args
  | .table _, args | .condition _, args | .addColumn, args | .renameColumn, args => args

/-- The arguments of a clause from a form with a value for each literal.  A query cannot be
put together again. -/
def restore : (clause : Clause) → clause.Form Value → Option clause.Args
  | .flag _, isOn | .cycle, isOn => some isOn
  | .quantity _, n => some n
  | .limit _, n => some n
  | .cascade, rule => some (CodeArg.variant (T := Cascade) rule)
  | .transactionAction, word => some (CodeArg.variant (T := TransactionAction) word)
  | .resetting, parameter => some (CodeArg.variant (T := StorageParameter) parameter)
  | .mode, chosen => some (CodeArg.variant (T := TransactionMode) chosen)
  | .literal _, value => Value.asText? value
  | .role _, spec => RoleSpec.restore spec
  | .setting _, one => some (Setting.restore one)
  | .table _, target => TableTarget.traverse Value.asText? target
  | .condition _, .literal value => (Value.asText? value).map ExpressionArg.text
  | .condition _, .query _ => none
  | .addColumn, add => AddColumn.traverse Value.asText? add
  | .dropColumn, drop => DropColumn.restore drop
  | .renameColumn, rename => RenameColumn.traverse Value.asText? rename
  | .alterColumn, alter => AlterColumn.restore alter
  | .action, act => TableAction.restore act

/-- The arguments contain no query. -/
def HasNoQuery : (clause : Clause) → clause.Args → Prop
  | .condition _, .query _ => False
  | _, _ => True

theorem eq_of_check_quantity {q : Quantity} {n checked : Int64} (h : q.check n = .ok checked) :
  checked = n
  := by
  cases q with
  | incrementBy | cache =>
    rw [Quantity.check] at h
    split_ifs at h
    exact (Except.ok.inj h).symm
  | startWith => exact (Except.ok.inj h).symm

/-- A checked form gives back the arguments that have been checked. -/
theorem restore_of_check (clause : Clause) {args : clause.Args} {checked : clause.Form Value}
    (h : clause.check args = .ok checked) (hquery : clause.HasNoQuery args) :
  clause.restore checked = some (clause.normalise args)
  := by
  cases clause with
  | flag | cycle | limit =>
    obtain rfl := Except.ok.inj h
    rfl
  | quantity q => exact congrArg some (eq_of_check_quantity (refusing_eq_ok.mp h))
  | cascade =>
    exact congrArg some (normalise_of_checkedCode (T := Cascade) (refusing_eq_ok.mp h)).symm
  | transactionAction =>
    exact congrArg some
      (normalise_of_checkedCode (T := TransactionAction) (refusing_eq_ok.mp h)).symm
  | resetting =>
    exact congrArg some
      (normalise_of_checkedCode (T := StorageParameter) (refusing_eq_ok.mp h)).symm
  | mode =>
    exact congrArg some
      (normalise_of_checkedCode (T := TransactionMode) (refusing_eq_ok.mp h)).symm
  | literal l =>
    have hvalue := (checkedText_eq_ok.mp (refusing_eq_ok.mp h)).2
    exact congrArg Value.asText? hvalue
  | role r => exact RoleSpec.restore_of_check (refusing_eq_ok.mp h)
  | setting l => exact congrArg some (Setting.restore_of_check (refusing_eq_ok.mp h))
  | table l => exact TableTarget.restore_of_check (refusing_eq_ok.mp h)
  | condition c =>
    cases args with
    | text s =>
      rw [(Expression.check_text_eq_ok.mp h).2]
      rfl
    | query q => contradiction
  | addColumn => exact AddColumn.restore_of_check (refusing_eq_ok.mp h)
  | dropColumn => exact DropColumn.restore_of_check (refusing_eq_ok.mp h)
  | renameColumn => exact RenameColumn.restore_of_check (refusing_eq_ok.mp h)
  | alterColumn => exact AlterColumn.restore_of_check (refusing_eq_ok.mp h)
  | action => exact TableAction.restore_of_check (refusing_eq_ok.mp h)

end Clause

end BoundSql
