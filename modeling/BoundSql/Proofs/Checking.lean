import BoundSql.Proofs.Form
import BoundSql.Proofs.Writing

/-!
# What arguments supply

`Clause.supplied` lists the literals in the arguments of a clause, in the order in which
the clause writes them.  Checking does not change them: the literals of a checked form are
the ones that its arguments supply.
-/

namespace BoundSql

/-! ### Literals in arguments -/

/-- The name of a role, if there is one. -/
def RoleArgs.supplied (args : RoleArgs) : List Value := args.name.toList.map .text

/-- The column, its type, its collation and its constraints. -/
def AddColumn.supplied (args : AddColumn String) : List Value :=
  .text args.column :: .text args.dataType
    :: (args.collation.toList.map .text ++ args.constraints.map .text)

/-- The text that comes with a change of a column; a number is no literal. -/
def ColumnValue.supplied : ColumnValue → List Value
  | .text s => [.text s]
  | .int _ => []

/-- The column, the text that comes with the change, and the collation. -/
def AlterColumnArgs.supplied (args : AlterColumnArgs) : List Value :=
  .text args.column
    :: (args.value.toList.flatMap ColumnValue.supplied ++ args.collation.toList.map .text)

/-- The literals in the arguments of an action. -/
def TableActionArgs.supplied : TableActionArgs → List Value
  | .addColumn args => args.supplied
  | .alterColumn args => args.supplied
  | .dropColumn args => [.text args.column]
  | .setStorage args => args.map SettingArgs.value
  | .resetStorage _ => []

/-- The literals in the arguments of a clause, in the order in which they are written.  A
query supplies what `ofQuery` says. -/
def Clause.supplied (ofQuery : Query → List Value) :
    (clause : Clause) → clause.Args → List Value
  | .literal _, s => [.text s]
  | .role _, args => RoleArgs.supplied args
  | .setting _, args => [SettingArgs.value args]
  | .table _, args => [.text (TableTarget.name (α := String) args)]
  | .condition _, .text s => [.text s]
  | .condition _, .query q => ofQuery q
  | .addColumn, args => AddColumn.supplied args
  | .dropColumn, args => [.text (DropColumnArgs.column args)]
  | .renameColumn, args =>
    [.text (RenameColumn.column (α := String) args),
      .text (RenameColumn.newName (α := String) args)]
  | .alterColumn, args => AlterColumnArgs.supplied args
  | .action, args => TableActionArgs.supplied args
  | .flag _, _ | .cycle, _ | .cascade, _ | .transactionAction, _ | .quantity _, _
  | .limit _, _ | .resetting, _ | .mode, _ => []

/-- The values that the tokens of a query refer to, from left to right. -/
def Query.spoken (query : Query) : List Value :=
  match query.meaning with
  | .ok meaning => meaning.slots
  | .error _ => []

/-! ### Checks keep literals -/

/-- A text that a literal can have: it is not empty and does not contain NUL. -/
def IsClean (s : String) : Prop := s.isEmpty = false ∧ s.toList.contains '\x00' = false

instance (s : String) : Decidable (IsClean s) :=
  inferInstanceAs (Decidable (s.isEmpty = false ∧ s.toList.contains '\x00' = false))

theorem checkedText_eq_ok {argument s : String} {value : Value} :
  checkedText argument s = .ok value ↔ IsClean s ∧ value = .text s
  := by
  rw [checkedText, IsClean]
  cases s.isEmpty with
  | true => simp
  | false =>
    cases s.toList.contains '\x00' with
    | true => simp
    | false => simp [eq_comm]

theorem checkedText?_eq_ok {argument : String} {s : Option String} {value : Option Value}
    (h : checkedText? argument s = .ok value) :
  value = s.map .text
  := by
  cases s with
  | none => exact (Except.ok.inj h).symm
  | some s =>
    obtain ⟨checked, hchecked, rfl⟩ := Except.map_eq_ok.mp h
    rw [(checkedText_eq_ok.mp hchecked).2]
    rfl

theorem mapM_checkedText_eq_ok {argument : String} {texts : List String}
    {values : List Value} (h : texts.mapM (checkedText argument) = .ok values) :
  values = texts.map .text
  := by
  have hmap := Except.map_eq_map_of_mapM (p := id) (q := Value.text)
    (fun s value hvalue => (checkedText_eq_ok.mp hvalue).2) h
  rwa [List.map_id] at hmap

theorem RoleSpec.literals_of_check {allowed : List RoleKind} {args : RoleArgs}
    {role : RoleSpec Value} (h : RoleSpec.check allowed args = .ok role) :
  role.literals = args.supplied
  := by
  obtain ⟨kind, hkind, hrest⟩ := Except.bind_eq_ok.mp h
  split_ifs at hrest
  obtain ⟨name, hname, hpure⟩ := Except.bind_eq_ok.mp hrest
  obtain rfl := Except.ok.inj hpure
  show name.toList = args.name.toList.map .text
  cases hargs : args.name with
  | none =>
    rw [hargs, checkName] at hname
    split_ifs at hname
    obtain rfl := Except.ok.inj hname
    rfl
  | some s =>
    rw [hargs, checkName] at hname
    split_ifs at hname
    obtain ⟨value, hvalue, rfl⟩ := Except.map_eq_ok.mp hname
    rw [(checkedText_eq_ok.mp hvalue).2]
    rfl

theorem Setting.value_of_check {args : SettingArgs} {setting : Setting Value}
    (h : Setting.check args = .ok setting) :
  setting.value = args.value
  := by
  obtain ⟨parameter, -, hrest⟩ := Except.bind_eq_ok.mp h
  split at hrest
  next => contradiction
  next => rw [← Except.ok.inj hrest]

theorem literals_of_checkSettings {args : List SettingArgs} {settings : List (Setting Value)}
    (h : checkSettings args = .ok settings) :
  settings.flatMap Setting.literals = args.map SettingArgs.value
  := by
  obtain ⟨checked, hchecked, hrest⟩ := Except.bind_eq_ok.mp h
  obtain ⟨_, -, hpure⟩ := Except.bind_eq_ok.mp hrest
  obtain rfl := Except.ok.inj hpure
  have hvalues : checked.flatMap Setting.literals = checked.map Setting.value :=
    (List.map_eq_flatMap ..).symm
  rw [hvalues]
  apply Except.map_eq_map_of_mapM (fun _ _ => Setting.value_of_check) hchecked

theorem TableTarget.literals_of_check {args : TableTarget String} {table : TableTarget Value}
    (h : TableTarget.check args = .ok table) :
  table.literals = [.text args.name]
  := by
  obtain ⟨_, -, hrest⟩ := Except.bind_eq_ok.mp h
  obtain ⟨name, hname, hpure⟩ := Except.bind_eq_ok.mp hrest
  obtain rfl := Except.ok.inj hpure
  rw [literals, (checkedText_eq_ok.mp hname).2]

theorem AddColumn.literals_of_check {args : AddColumn String} {add : AddColumn Value}
    (h : AddColumn.check args = .ok add) :
  add.literals = args.supplied
  := by
  obtain ⟨column, hcolumn, hrest⟩ := Except.bind_eq_ok.mp h
  obtain ⟨dataType, hdataType, hrest⟩ := Except.bind_eq_ok.mp hrest
  obtain ⟨collation, hcollation, hrest⟩ := Except.bind_eq_ok.mp hrest
  obtain ⟨constraints, hconstraints, hpure⟩ := Except.bind_eq_ok.mp hrest
  obtain rfl := Except.ok.inj hpure
  rw [literals, supplied, (checkedText_eq_ok.mp hcolumn).2, (checkedText_eq_ok.mp hdataType).2,
    checkedText?_eq_ok hcollation, mapM_checkedText_eq_ok hconstraints, Option.toList_map]

theorem DropColumn.literals_of_check {args : DropColumnArgs} {drop : DropColumn Value}
    (h : DropColumn.check args = .ok drop) :
  drop.literals = [.text args.column]
  := by
  obtain ⟨column, hcolumn, hrest⟩ := Except.bind_eq_ok.mp h
  obtain ⟨rule, -, hpure⟩ := Except.bind_eq_ok.mp hrest
  obtain rfl := Except.ok.inj hpure
  rw [literals, (checkedText_eq_ok.mp hcolumn).2]

theorem RenameColumn.literals_of_check {args : RenameColumn String}
    {rename : RenameColumn Value} (h : RenameColumn.check args = .ok rename) :
  rename.literals = [.text args.column, .text args.newName]
  := by
  obtain ⟨column, hcolumn, hrest⟩ := Except.bind_eq_ok.mp h
  obtain ⟨newName, hnewName, hpure⟩ := Except.bind_eq_ok.mp hrest
  obtain rfl := Except.ok.inj hpure
  rw [literals, (checkedText_eq_ok.mp hcolumn).2, (checkedText_eq_ok.mp hnewName).2]

theorem ColumnAction.eq_none_of_checkCollation {change : ColumnChange}
    {collation : Option String} {u : Unit} (h : checkCollation change collation = .ok u)
    (hchange : change ≠ .setDataType) :
  collation = none
  := by
  rw [checkCollation] at h
  split_ifs at h with hcond
  rw [Bool.and_eq_true, not_and, bne_iff_ne] at hcond
  rw [← Option.not_isSome_iff_eq_none]
  intro hsome
  apply hcond hsome hchange

theorem ColumnAction.eq_none_of_checkNoValue {change : ColumnChange}
    {value : Option ColumnValue} {u : Unit} (h : checkNoValue change value = .ok u) :
  value = none
  := by
  cases value with
  | none => rfl
  | some value => cases h

theorem ColumnAction.supplied_of_checkTextValue {change : ColumnChange}
    {value : Option ColumnValue} {text : Value} (h : checkTextValue change value = .ok text) :
  value.toList.flatMap ColumnValue.supplied = [text]
  := by
  match value with
  | some (.text s) =>
    rw [(checkedText_eq_ok.mp h).2]
    rfl
  | some (.int n) => cases h
  | none => cases h

theorem ColumnAction.supplied_of_checkIntValue {change : ColumnChange}
    {value : Option ColumnValue} {n : Int64} (h : checkIntValue change value = .ok n) :
  value.toList.flatMap ColumnValue.supplied = []
  := by
  match value with
  | some (.int m) => rfl
  | some (.text s) => cases h
  | none => cases h

theorem ColumnAction.literals_of_check {change : ColumnChange} {value : Option ColumnValue}
    {collation : Option String} {action : ColumnAction Value}
    (h : ColumnAction.check change value collation = .ok action) :
  action.literals
    = value.toList.flatMap ColumnValue.supplied ++ collation.toList.map .text
  := by
  obtain ⟨_, hcollation, hrest⟩ := Except.bind_eq_ok.mp h
  cases change with
  | dropNotNull | dropDefault | setNotNull =>
    obtain ⟨_, hvalue, hpure⟩ := Except.bind_eq_ok.mp hrest
    obtain rfl := Except.ok.inj hpure
    rw [eq_none_of_checkCollation hcollation (by decide), eq_none_of_checkNoValue hvalue]
    rfl
  | setDataType =>
    obtain ⟨name, hname, hrest⟩ := Except.bind_eq_ok.mp hrest
    obtain ⟨dataType, hdataType, hpure⟩ := Except.bind_eq_ok.mp hrest
    obtain rfl := Except.ok.inj hpure
    rw [literals, supplied_of_checkTextValue hdataType, checkedText?_eq_ok hname,
      Option.toList_map]
    rfl
  | setDefault =>
    obtain ⟨default, hdefault, hpure⟩ := Except.bind_eq_ok.mp hrest
    obtain rfl := Except.ok.inj hpure
    rw [eq_none_of_checkCollation hcollation (by decide), literals,
      supplied_of_checkTextValue hdefault]
    rfl
  | setStatistics =>
    obtain ⟨n, hn, hrest⟩ := Except.bind_eq_ok.mp hrest
    obtain ⟨target, -, hpure⟩ := Except.bind_eq_ok.mp hrest
    obtain rfl := Except.ok.inj hpure
    rw [eq_none_of_checkCollation hcollation (by decide), supplied_of_checkIntValue hn]
    rfl
  | setStorage =>
    obtain ⟨code, hcode, hrest⟩ := Except.bind_eq_ok.mp hrest
    obtain ⟨mode, -, hpure⟩ := Except.bind_eq_ok.mp hrest
    obtain rfl := Except.ok.inj hpure
    rw [eq_none_of_checkCollation hcollation (by decide), supplied_of_checkIntValue hcode]
    rfl

theorem AlterColumn.literals_of_check {args : AlterColumnArgs} {alter : AlterColumn Value}
    (h : AlterColumn.check args = .ok alter) :
  alter.literals = args.supplied
  := by
  obtain ⟨change, -, hrest⟩ := Except.bind_eq_ok.mp h
  obtain ⟨column, hcolumn, hrest⟩ := Except.bind_eq_ok.mp hrest
  obtain ⟨action, haction, hpure⟩ := Except.bind_eq_ok.mp hrest
  obtain rfl := Except.ok.inj hpure
  rw [literals, AlterColumnArgs.supplied, (checkedText_eq_ok.mp hcolumn).2,
    ColumnAction.literals_of_check haction]

theorem TableAction.literals_of_check {args : TableActionArgs} {act : TableAction Value}
    (h : TableAction.check args = .ok act) :
  act.literals = args.supplied
  := by
  match args with
  | .addColumn args =>
    obtain ⟨add, hadd, rfl⟩ := Except.map_eq_ok.mp h
    apply AddColumn.literals_of_check hadd
  | .alterColumn args =>
    obtain ⟨alter, halter, rfl⟩ := Except.map_eq_ok.mp h
    apply AlterColumn.literals_of_check halter
  | .dropColumn args =>
    obtain ⟨drop, hdrop, rfl⟩ := Except.map_eq_ok.mp h
    apply DropColumn.literals_of_check hdrop
  | .setStorage [] => cases h
  | .setStorage (first :: args) =>
    obtain ⟨settings, hsettings, rfl⟩ := Except.map_eq_ok.mp h
    apply literals_of_checkSettings hsettings
  | .resetStorage [] => cases h
  | .resetStorage (first :: args) =>
    obtain ⟨parameters, -, rfl⟩ := Except.map_eq_ok.mp h
    rfl

theorem Expression.check_query_eq_ok (function : String) {q : Query}
    {expression : Expression Value} :
  Expression.check function (.query q) = .ok expression
    ↔ ∃ body, q.references = .ok body ∧ expression = .query ⟨body, q.values⟩
  := by
  rw [Expression.check, Except.mapError_eq_ok, Except.map_eq_ok]
  simp only [eq_comm]

theorem Expression.check_text_eq_ok {function s : String} {expression : Expression Value} :
  Expression.check function (.text s) = .ok expression
    ↔ IsClean s ∧ expression = .literal (.text s)
  := by
  rw [Expression.check, Except.mapError_eq_ok, Except.map_eq_ok]
  simp [checkedText_eq_ok, and_assoc, eq_comm]

/-! ### All clauses -/

namespace Clause

theorem refusing_eq_ok {F : Type} {function : String} {checked : Except Rejection F}
    {form : F} :
  refusing function checked = .ok form ↔ checked = .ok form
  := Except.mapError_eq_ok

/-- The literals of a checked form are those that its arguments supply. -/
theorem literals_of_check (clause : Clause) {args : clause.Args} {checked : clause.Form Value}
    (h : clause.check args = .ok checked) :
  clause.literals checked = clause.supplied Query.values args
  := by
  cases clause with
  | flag | cycle | cascade | transactionAction | quantity | limit | resetting | mode => rfl
  | literal l =>
    have hvalue := (checkedText_eq_ok.mp (refusing_eq_ok.mp h)).2
    apply congrArg (fun value => [value]) hvalue
  | role r => exact RoleSpec.literals_of_check (refusing_eq_ok.mp h)
  | setting l =>
    have hvalue := Setting.value_of_check (refusing_eq_ok.mp h)
    apply congrArg (fun value => [value]) hvalue
  | table l => exact TableTarget.literals_of_check (refusing_eq_ok.mp h)
  | condition c =>
    cases args with
    | text s =>
      rw [(Expression.check_text_eq_ok.mp h).2]
      rfl
    | query q =>
      obtain ⟨body, -, rfl⟩ := (Expression.check_query_eq_ok c.function).mp h
      rfl
  | addColumn => exact AddColumn.literals_of_check (refusing_eq_ok.mp h)
  | dropColumn => exact DropColumn.literals_of_check (refusing_eq_ok.mp h)
  | renameColumn => exact RenameColumn.literals_of_check (refusing_eq_ok.mp h)
  | alterColumn => exact AlterColumn.literals_of_check (refusing_eq_ok.mp h)
  | action => exact TableAction.literals_of_check (refusing_eq_ok.mp h)

/-- What a checked form writes are the literals that its arguments supply, where a query
supplies the values that its own tokens refer to. -/
theorem written_of_check (clause : Clause) {args : clause.Args} {checked : clause.Form Value}
    (h : clause.check args = .ok checked) :
  clause.written checked = clause.supplied Query.spoken args
  := by
  cases clause with
  | condition c =>
    cases args with
    | text s =>
      rw [(Expression.check_text_eq_ok.mp h).2]
      rfl
    | query q =>
      obtain ⟨body, hbody, rfl⟩ := (Expression.check_query_eq_ok c.function).mp h
      show (Absorbed.template ⟨body, q.values⟩).slots = q.spoken
      rw [Query.spoken, Query.meaning, hbody]
      rfl
  | _ => exact literals_of_check _ h

end Clause

end BoundSql
