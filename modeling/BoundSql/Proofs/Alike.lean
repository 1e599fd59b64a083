import BoundSql.Proofs.Agreement
import BoundSql.Proofs.Checking

/-!
# Arguments that differ in literals

Two lists of arguments are alike when they differ at most in literals, and there only in
literals that can be bound.  Checking alike arguments gives the same error, or forms of the
same shape: no check looks at a literal beyond its being one.
-/

namespace BoundSql

/-! ### Alike arguments -/

/-- The same text, or two texts that literals can have. -/
def TextAlike (s s' : String) : Prop := s = s' ∨ IsClean s ∧ IsClean s'

/-- A value that a storage parameter can have: a scalar, and a clean one if it is text. -/
def Value.IsStorable : Value → Prop
  | .text s => IsClean s
  | .json _ => False
  | _ => True

/-- The same value, or two values that storage parameters can have. -/
def Value.StorageAlike (value value' : Value) : Prop :=
  value = value' ∨ value.IsStorable ∧ value'.IsStorable

/-- Roles of the same kind, with or without a name. -/
structure RoleArgs.Alike (args args' : RoleArgs) : Prop where
  kind_eq : args.kind = args'.kind
  name : Option.Rel TextAlike args.name args'.name

/-- Settings of the same parameter. -/
structure SettingArgs.Alike (args args' : SettingArgs) : Prop where
  parameter_eq : args.parameter = args'.parameter
  value : args.value.StorageAlike args'.value

/-- Tables of the same scope. -/
structure TableTarget.Alike (args args' : TableTarget String) : Prop where
  name : TextAlike args.name args'.name
  only_eq : args.only = args'.only
  descendants_eq : args.descendants = args'.descendants

/-- Queries with the same text, the same numbering and equally many values. -/
structure Query.Alike (q q' : Query) : Prop where
  sql_eq : q.sql = q'.sql
  sigil_eq : q.sigil = q'.sigil
  firstId_eq : q.firstId = q'.firstId
  length_eq : q.values.length = q'.values.length

/-- Conditions of the same sort. -/
inductive ExpressionArg.Alike : ExpressionArg → ExpressionArg → Prop where
  | text {s s' : String} (h : TextAlike s s') : Alike (.text s) (.text s')
  | query {q q' : Query} (h : q.Alike q') : Alike (.query q) (.query q')

/-- New columns with the same literals present. -/
structure AddColumn.Alike (args args' : AddColumn String) : Prop where
  column : TextAlike args.column args'.column
  dataType : TextAlike args.dataType args'.dataType
  collation : Option.Rel TextAlike args.collation args'.collation
  constraints : List.Forall₂ TextAlike args.constraints args'.constraints

/-- Columns to drop with the same options. -/
structure DropColumnArgs.Alike (args args' : DropColumnArgs) : Prop where
  column : TextAlike args.column args'.column
  ifExists_eq : args.ifExists = args'.ifExists
  cascade_eq : args.cascade = args'.cascade

/-- Columns to rename. -/
structure RenameColumn.Alike (args args' : RenameColumn String) : Prop where
  column : TextAlike args.column args'.column
  newName : TextAlike args.newName args'.newName

/-- Values of a change of a column: alike texts, or the same number. -/
inductive ColumnValue.Alike : ColumnValue → ColumnValue → Prop where
  | text {s s' : String} (h : TextAlike s s') : Alike (.text s) (.text s')
  | int (n : Int64) : Alike (.int n) (.int n)

/-- Columns that undergo the same change. -/
structure AlterColumnArgs.Alike (args args' : AlterColumnArgs) : Prop where
  column : TextAlike args.column args'.column
  change_eq : args.change = args'.change
  value : Option.Rel ColumnValue.Alike args.value args'.value
  collation : Option.Rel TextAlike args.collation args'.collation

/-- Actions of the same sort. -/
inductive TableActionArgs.Alike : TableActionArgs → TableActionArgs → Prop where
  | addColumn {args args' : AddColumn String} (h : args.Alike args') :
    Alike (.addColumn args) (.addColumn args')
  | alterColumn {args args' : AlterColumnArgs} (h : args.Alike args') :
    Alike (.alterColumn args) (.alterColumn args')
  | dropColumn {args args' : DropColumnArgs} (h : args.Alike args') :
    Alike (.dropColumn args) (.dropColumn args')
  | setStorage {args args' : List SettingArgs} (h : List.Forall₂ SettingArgs.Alike args args') :
    Alike (.setStorage args) (.setStorage args')
  | resetStorage (args : List (CodeArg StorageParameter)) :
    Alike (.resetStorage args) (.resetStorage args)

/-- Arguments of a clause that differ at most in literals that can be bound. -/
def Clause.Alike : (clause : Clause) → clause.Args → clause.Args → Prop
  | .literal _, s, s' => TextAlike s s'
  | .role _, args, args' => RoleArgs.Alike args args'
  | .setting _, args, args' => SettingArgs.Alike args args'
  | .table _, args, args' => TableTarget.Alike args args'
  | .condition _, args, args' => ExpressionArg.Alike args args'
  | .addColumn, args, args' => AddColumn.Alike args args'
  | .dropColumn, args, args' => DropColumnArgs.Alike args args'
  | .renameColumn, args, args' => RenameColumn.Alike args args'
  | .alterColumn, args, args' => AlterColumnArgs.Alike args args'
  | .action, args, args' => TableActionArgs.Alike args args'
  | .flag _, args, args' | .cycle, args, args' | .cascade, args, args'
  | .transactionAction, args, args' | .quantity _, args, args' | .limit _, args, args'
  | .resetting, args, args' | .mode, args, args' => args = args'

/-! ### Checks of alike arguments agree -/

theorem agree_checkedText (argument : String) {s s' : String} (h : TextAlike s s') :
  Except.Agree (fun _ _ => True) (checkedText argument s) (checkedText argument s')
  := by
  rcases h with rfl | ⟨hs, hs'⟩
  · exact (Except.Agree.of_eq rfl).imp fun _ _ _ => trivial
  · rw [checkedText_eq_ok.mpr ⟨hs, rfl⟩, checkedText_eq_ok.mpr ⟨hs', rfl⟩]
    apply Except.Agree.ok trivial

theorem agree_checkedText? (argument : String) {s s' : Option String}
    (h : Option.Rel TextAlike s s') :
  Except.Agree (Option.Rel fun _ _ => True) (checkedText? argument s)
    (checkedText? argument s')
  := by
  cases h with
  | none => exact Except.Agree.ok Option.Rel.none
  | some h =>
    apply (agree_checkedText argument h).map
    exact fun _ _ _ => Option.Rel.some trivial

theorem optionTraversal_shape_eq {α β : Type} {x : Option α} {y : Option β}
    (h : Option.Rel (fun _ _ => True) x y) :
  optionTraversal.shape x = optionTraversal.shape y
  := by
  cases h with
  | none => rfl
  | some _ => rfl

theorem Traversal.list_shape_eq {F : Type → Type} {T : Traversal F} {α β : Type}
    {xs : List (F α)} {ys : List (F β)}
    (h : List.Forall₂ (fun x y => T.shape x = T.shape y) xs ys) :
  T.list.shape xs = T.list.shape ys
  := by
  rw [shape, shape, list_map, list_map]
  induction h with
  | nil => rfl
  | cons hxy _ ih => exact congrArg₂ List.cons hxy ih

theorem RoleSpec.agree_check (allowed : List RoleKind) {args args' : RoleArgs}
    (h : args.Alike args') :
  Except.Agree (fun role role' => traversal.shape role = traversal.shape role')
    (check allowed args) (check allowed args')
  := by
  obtain ⟨kind, name⟩ := args
  obtain ⟨kind', name'⟩ := args'
  obtain ⟨hkind, hname⟩ := h
  obtain rfl : kind = kind' := hkind
  apply (Except.Agree.of_eq rfl).bind
  rintro found _ rfl
  split_ifs with hallowed
  · have hcheckName : Except.Agree (Option.Rel fun _ _ => True) (checkName found name)
        (checkName found name') := by
      cases hname with
      | none =>
        rw [checkName]
        split_ifs
        · apply Except.Agree.error _
        · apply Except.Agree.ok Option.Rel.none
      | some htext =>
        rw [checkName, checkName]
        split_ifs
        · apply (agree_checkedText "name" htext).map
          exact fun _ _ _ => Option.Rel.some trivial
        · apply Except.Agree.error _
    apply hcheckName.bind
    intro literal literal' hliteral
    apply Except.Agree.ok
    apply congrArg (RoleSpec.mk found) (optionTraversal_shape_eq hliteral)
  · apply Except.Agree.error _

theorem Setting.reason?_eq_none {value : Value} (h : value.IsStorable) :
  reason? value = none
  := by
  cases value with
  | text s =>
    rw [reason?, h.1, h.2]
    rfl
  | json document => exact h.elim
  | int | float | bool => rfl

theorem Setting.agree_check {args args' : SettingArgs} (h : args.Alike args') :
  Except.Agree (fun setting setting' => traversal.shape setting = traversal.shape setting')
    (check args) (check args')
  := by
  obtain ⟨parameter, value⟩ := args
  obtain ⟨parameter', value'⟩ := args'
  obtain ⟨hparameter, hvalue⟩ := h
  obtain rfl : parameter = parameter' := hparameter
  apply (Except.Agree.of_eq rfl).bind
  rintro found _ rfl
  rcases hvalue with hvalue | ⟨hvalue, hvalue'⟩
  · obtain rfl : value = value' := hvalue
    apply (Except.Agree.of_eq rfl).imp
    rintro setting _ rfl
    rfl
  · simp only [reason?_eq_none hvalue, reason?_eq_none hvalue']
    exact Except.Agree.ok rfl

theorem agree_checkSettings {args args' : List SettingArgs}
    (h : List.Forall₂ SettingArgs.Alike args args') :
  Except.Agree
    (fun settings settings' =>
      Setting.traversal.list.shape settings = Setting.traversal.list.shape settings')
    (checkSettings args) (checkSettings args')
  := by
  apply (Except.Agree.mapM h fun _ _ => Setting.agree_check).bind
  intro settings settings' hsettings
  have hparameters : settings.map Setting.parameter = settings'.map Setting.parameter := by
    induction hsettings with
    | nil => rfl
    | cons hsetting _ ih =>
      have hparameter := congrArg Setting.parameter hsetting
      apply congrArg₂ List.cons hparameter ih
  rw [hparameters]
  apply (Except.Agree.of_eq rfl).bind
  rintro _ _ rfl
  exact Except.Agree.ok (Traversal.list_shape_eq hsettings)

theorem TableTarget.agree_check {args args' : TableTarget String} (h : args.Alike args') :
  Except.Agree (fun table table' => traversal.shape table = traversal.shape table')
    (check args) (check args')
  := by
  obtain ⟨name, only, descendants⟩ := args
  obtain ⟨name', only', descendants'⟩ := args'
  obtain ⟨hname, honly, hdescendants⟩ := h
  obtain rfl : only = only' := honly
  obtain rfl : descendants = descendants' := hdescendants
  have hscope : checkScope ⟨name, only, descendants⟩ = checkScope ⟨name', only, descendants⟩ :=
    rfl
  apply (Except.Agree.of_eq hscope).bind
  rintro _ _ rfl
  apply (agree_checkedText "name" hname).bind
  intro literal literal' _
  exact Except.Agree.ok rfl

theorem AddColumn.agree_check {args args' : AddColumn String} (h : args.Alike args') :
  Except.Agree (fun add add' => traversal.shape add = traversal.shape add')
    (check args) (check args')
  := by
  apply (agree_checkedText "column" h.column).bind
  intro column column' _
  apply (agree_checkedText "data_type" h.dataType).bind
  intro dataType dataType' _
  apply (agree_checkedText? "collation" h.collation).bind
  intro collation collation' hcollation
  apply (Except.Agree.mapM h.constraints fun _ _ => agree_checkedText "constraint").bind
  intro constraints constraints' hconstraints
  apply Except.Agree.ok
  have hshape : literalTraversal.list.shape constraints
      = literalTraversal.list.shape constraints' :=
    Traversal.list_shape_eq (hconstraints.imp fun _ _ _ => rfl)
  apply congrArg₂ (AddColumn.mk () ()) (optionTraversal_shape_eq hcollation) hshape

theorem DropColumn.agree_check {args args' : DropColumnArgs} (h : args.Alike args') :
  Except.Agree (fun drop drop' => traversal.shape drop = traversal.shape drop')
    (check args) (check args')
  := by
  obtain ⟨column, ifExists, cascade⟩ := args
  obtain ⟨column', ifExists', cascade'⟩ := args'
  obtain ⟨hcolumn, hifExists, hcascade⟩ := h
  obtain rfl : ifExists = ifExists' := hifExists
  obtain rfl : cascade = cascade' := hcascade
  apply (agree_checkedText "column" hcolumn).bind
  intro literal literal' _
  apply (Except.Agree.of_eq rfl).bind
  rintro rule _ rfl
  exact Except.Agree.ok rfl

theorem RenameColumn.agree_check {args args' : RenameColumn String} (h : args.Alike args') :
  Except.Agree (fun rename rename' => traversal.shape rename = traversal.shape rename')
    (check args) (check args')
  := by
  apply (agree_checkedText "from" h.column).bind
  intro column column' _
  apply (agree_checkedText "to" h.newName).bind
  intro newName newName' _
  exact Except.Agree.ok rfl

theorem ColumnAction.agree_checkTextValue (change : ColumnChange)
    {value value' : Option ColumnValue} (h : Option.Rel ColumnValue.Alike value value') :
  Except.Agree (fun _ _ => True) (checkTextValue change value) (checkTextValue change value')
  := by
  cases h with
  | none => exact Except.Agree.error _
  | some h =>
    cases h with
    | text htext => exact agree_checkedText "value" htext
    | int n => exact Except.Agree.error _

theorem ColumnAction.checkIntValue_eq (change : ColumnChange)
    {value value' : Option ColumnValue} (h : Option.Rel ColumnValue.Alike value value') :
  checkIntValue change value = checkIntValue change value'
  := by
  cases h with
  | none => rfl
  | some h => cases h <;> rfl

theorem ColumnAction.checkNoValue_eq (change : ColumnChange)
    {value value' : Option ColumnValue} (h : Option.Rel ColumnValue.Alike value value') :
  checkNoValue change value = checkNoValue change value'
  := by
  cases h with
  | none => rfl
  | some h => rfl

theorem ColumnAction.checkCollation_eq (change : ColumnChange)
    {collation collation' : Option String} (h : Option.Rel TextAlike collation collation') :
  checkCollation change collation = checkCollation change collation'
  := by
  cases h with
  | none => rfl
  | some h => rfl

theorem ColumnAction.agree_check (change : ColumnChange) {value value' : Option ColumnValue}
    {collation collation' : Option String}
    (hvalue : Option.Rel ColumnValue.Alike value value')
    (hcollation : Option.Rel TextAlike collation collation') :
  Except.Agree (fun action action' => traversal.shape action = traversal.shape action')
    (check change value collation) (check change value' collation')
  := by
  apply (Except.Agree.of_eq (checkCollation_eq change hcollation)).bind
  rintro _ _ rfl
  cases change with
  | dropNotNull | dropDefault | setNotNull =>
    apply (Except.Agree.of_eq (checkNoValue_eq _ hvalue)).bind
    rintro _ _ rfl
    exact Except.Agree.ok rfl
  | setDataType =>
    apply (agree_checkedText? "collation" hcollation).bind
    intro literal literal' hliteral
    apply (agree_checkTextValue _ hvalue).bind
    intro dataType dataType' _
    apply Except.Agree.ok
    apply congrArg (ColumnAction.setDataType ()) (optionTraversal_shape_eq hliteral)
  | setDefault =>
    apply (agree_checkTextValue _ hvalue).bind
    intro default default' _
    exact Except.Agree.ok rfl
  | setStatistics =>
    apply (Except.Agree.of_eq (checkIntValue_eq _ hvalue)).bind
    rintro n _ rfl
    apply (Except.Agree.of_eq rfl).bind
    rintro target _ rfl
    exact Except.Agree.ok rfl
  | setStorage =>
    apply (Except.Agree.of_eq (checkIntValue_eq _ hvalue)).bind
    rintro code _ rfl
    apply (Except.Agree.of_eq rfl).bind
    rintro mode _ rfl
    exact Except.Agree.ok rfl

theorem AlterColumn.agree_check {args args' : AlterColumnArgs} (h : args.Alike args') :
  Except.Agree (fun alter alter' => traversal.shape alter = traversal.shape alter')
    (check args) (check args')
  := by
  obtain ⟨column, change, value, collation⟩ := args
  obtain ⟨column', change', value', collation'⟩ := args'
  obtain ⟨hcolumn, hchange, hvalue, hcollation⟩ := h
  obtain rfl : change = change' := hchange
  apply (Except.Agree.of_eq rfl).bind
  rintro found _ rfl
  apply (agree_checkedText "column" hcolumn).bind
  intro literal literal' _
  apply (ColumnAction.agree_check found hvalue hcollation).bind
  intro action action' haction
  apply Except.Agree.ok
  apply congrArg (AlterColumn.mk ()) haction

theorem TableActionArgs.Alike.function_eq {args args' : TableActionArgs}
    (h : args.Alike args') :
  args.function = args'.function
  := by
  cases h <;> rfl

theorem TableAction.agree_check {args args' : TableActionArgs} (h : args.Alike args') :
  Except.Agree (fun act act' => traversal.shape act = traversal.shape act')
    (check args) (check args')
  := by
  cases h with
  | addColumn h =>
    apply (AddColumn.agree_check h).map
    exact fun _ _ hshape => congrArg TableAction.addColumn hshape
  | alterColumn h =>
    apply (AlterColumn.agree_check h).map
    exact fun _ _ hshape => congrArg TableAction.alterColumn hshape
  | dropColumn h =>
    apply (DropColumn.agree_check h).map
    exact fun _ _ hshape => congrArg TableAction.dropColumn hshape
  | setStorage h =>
    cases h with
    | nil => exact Except.Agree.error _
    | cons hsetting hrest =>
      apply (agree_checkSettings (List.Forall₂.cons hsetting hrest)).map
      exact fun _ _ hshape => congrArg TableAction.setStorage hshape
  | resetStorage args =>
    apply (Except.Agree.of_eq rfl).imp
    rintro act _ rfl
    rfl

theorem TableAction.agree_refusing {args args' : TableActionArgs} (h : args.Alike args') :
  Except.Agree (fun act act' => traversal.shape act = traversal.shape act')
    (Clause.refusing args.function (check args))
    (Clause.refusing args'.function (check args'))
  := by
  rw [h.function_eq]
  exact (agree_check h).mapError _

/-! ### Queries -/

theorem Query.Alike.references_eq {q q' : Query} (h : q.Alike q') :
  q.references = q'.references
  := by
  have hposition : ∀ id, q.position? id = q'.position? id := by
    intro id
    rw [position?, position?, h.firstId_eq, h.length_eq]
  have hresolve : q.resolve = q'.resolve := by
    funext numeral
    rw [resolve, resolve, hposition, h.sigil_eq, h.length_eq]
  rw [references, references, h.sigil_eq, h.sql_eq, hresolve]

theorem Expression.agree_check (function : String) {args args' : ExpressionArg}
    (h : args.Alike args') :
  Except.Agree (fun expression expression' =>
      traversal.shape expression = traversal.shape expression')
    (check function args) (check function args')
  := by
  cases h with
  | text h =>
    rw [check, check]
    apply Except.Agree.mapError
    apply (agree_checkedText "expression" h).map
    exact fun _ _ _ => rfl
  | query h =>
    rw [check, check, h.references_eq]
    apply Except.Agree.mapError
    apply (Except.Agree.of_eq rfl).map
    rintro body _ rfl
    apply Expression.shape_query h.length_eq

/-! ### All clauses -/

/-- Checking alike arguments gives the same error, or forms of the same shape. -/
theorem Clause.agree_check (clause : Clause) {args args' : clause.Args}
    (h : clause.Alike args args') :
  Except.Agree (fun form form' => clause.traversal.shape form = clause.traversal.shape form')
    (clause.check args) (clause.check args')
  := by
  have hsame : args = args' → Except.Agree
      (fun form form' => clause.traversal.shape form = clause.traversal.shape form')
      (clause.check args) (clause.check args') := by
    rintro rfl
    apply (Except.Agree.of_eq rfl).imp
    rintro form _ rfl
    rfl
  cases clause with
  | flag | cycle | cascade | transactionAction | quantity | limit | resetting | mode =>
    apply hsame h
  | literal l =>
    apply Except.Agree.mapError
    apply (agree_checkedText l.argument h).imp
    exact fun _ _ _ => rfl
  | role r => exact (RoleSpec.agree_check r.allowed h).mapError _
  | setting l => exact (Setting.agree_check h).mapError _
  | table l => exact (TableTarget.agree_check h).mapError _
  | condition c => exact Expression.agree_check c.function h
  | addColumn => exact (AddColumn.agree_check h).mapError _
  | dropColumn => exact (DropColumn.agree_check h).mapError _
  | renameColumn => exact (RenameColumn.agree_check h).mapError _
  | alterColumn => exact (AlterColumn.agree_check h).mapError _
  | action => exact TableAction.agree_refusing h

/-! ### Alike arguments supply equally many literals -/

theorem Option.Rel.length_toList_eq {α β : Type} {r : α → β → Prop} {x : Option α}
    {y : Option β} (h : Option.Rel r x y) :
  x.toList.length = y.toList.length
  := by
  cases h <;> rfl

theorem RoleArgs.Alike.length_supplied_eq {args args' : RoleArgs} (h : args.Alike args') :
  args.supplied.length = args'.supplied.length
  := by
  simp only [RoleArgs.supplied, List.length_map, Option.Rel.length_toList_eq h.name]

theorem AddColumn.Alike.length_supplied_eq {args args' : AddColumn String}
    (h : args.Alike args') :
  args.supplied.length = args'.supplied.length
  := by
  simp only [AddColumn.supplied, List.length_cons, List.length_append, List.length_map,
    Option.Rel.length_toList_eq h.collation, h.constraints.length_eq]

theorem AlterColumnArgs.Alike.length_supplied_eq {args args' : AlterColumnArgs}
    (h : args.Alike args') :
  args.supplied.length = args'.supplied.length
  := by
  obtain ⟨column, change, value, collation⟩ := args
  obtain ⟨column', change', value', collation'⟩ := args'
  obtain ⟨-, -, hvalue, hcollation⟩ := h
  have hlength : (value.toList.flatMap ColumnValue.supplied).length
      = (value'.toList.flatMap ColumnValue.supplied).length := by
    cases hvalue with
    | none => rfl
    | some hvalue => cases hvalue <;> rfl
  simp only [supplied, List.length_cons, List.length_append, List.length_map,
    Option.Rel.length_toList_eq hcollation, hlength]

/-- Alike arguments have their literals in the same places. -/
theorem Clause.length_supplied_eq (clause : Clause) {args args' : clause.Args}
    (h : clause.Alike args args') :
  (clause.supplied Query.values args).length = (clause.supplied Query.values args').length
  := by
  cases clause with
  | flag | cycle | cascade | transactionAction | quantity | limit | resetting | mode => rfl
  | literal | setting | table | dropColumn | renameColumn => rfl
  | role r => exact RoleArgs.Alike.length_supplied_eq h
  | condition c =>
    cases h with
    | text h => rfl
    | query h => exact h.length_eq
  | addColumn => exact AddColumn.Alike.length_supplied_eq h
  | alterColumn => exact AlterColumnArgs.Alike.length_supplied_eq h
  | action =>
    cases h with
    | addColumn h => exact h.length_supplied_eq
    | alterColumn h => exact h.length_supplied_eq
    | dropColumn h => rfl
    | setStorage h =>
      simp only [supplied, TableActionArgs.supplied, List.length_map, h.length_eq]
    | resetStorage args => rfl

end BoundSql
