import BoundSql.Clause.Argument
import BoundSql.Template

/-!
# Columns

The ways in which a statement changes a column: it adds, drops or renames one, or alters
one by a `ColumnAction`.  Names, types, collations, constraints and defaults are
literals.  Where a clause has no other arguments than its literals, the arguments are the
clause with plain text in their places.
-/

namespace BoundSql

/-! ### Adding a column -/

/-- A new column. -/
structure AddColumn (α : Type) where
  column : α
  dataType : α
  collation : Option α
  constraints : List α
deriving DecidableEq

namespace AddColumn

variable {α β : Type}

/-- Visits the literals in the order in which they are written. -/
def traverse {m : Type → Type} [Monad m] (f : α → m β) (add : AddColumn α) :
    m (AddColumn β) := do
  let column ← f add.column
  let dataType ← f add.dataType
  let collation ← add.collation.mapM f
  let constraints ← add.constraints.mapM f
  pure ⟨column, dataType, collation, constraints⟩

/-- The literals in the order in which they are written. -/
def literals (add : AddColumn α) : List α :=
  add.column :: add.dataType :: (add.collation.toList ++ add.constraints)

/-- The column, its type, its collation and its constraints. -/
def template (add : AddColumn α) : Template α :=
  Template.spaced
    ([Template.word "ADD COLUMN", Template.ref add.column, Template.ref add.dataType]
      ++ add.collation.toList.flatMap
        (fun collation => [Template.word "COLLATE", Template.ref collation])
      ++ add.constraints.map Template.ref)

/-- A new column whose texts are literals. -/
def check (args : AddColumn String) : Except Rejection (AddColumn Value) := do
  let column ← checkedText "column" args.column
  let dataType ← checkedText "data_type" args.dataType
  let collation ← checkedText? "collation" args.collation
  let constraints ← args.constraints.mapM (checkedText "constraint")
  pure ⟨column, dataType, collation, constraints⟩

end AddColumn

/-! ### Dropping a column -/

/-- The arguments for dropping a column. -/
structure DropColumnArgs where
  column : String
  ifExists : Bool
  cascade : Option (CodeArg Cascade)

/-- A column to drop. -/
structure DropColumn (α : Type) where
  column : α
  ifExists : Bool
  cascade : Option Cascade
deriving DecidableEq

namespace DropColumn

variable {α β : Type}

/-- Visits the name of the column. -/
def traverse {m : Type → Type} [Monad m] (f : α → m β) (drop : DropColumn α) :
    m (DropColumn β) := do
  let column ← f drop.column
  pure ⟨column, drop.ifExists, drop.cascade⟩

/-- The name of the column. -/
def literals (drop : DropColumn α) : List α := [drop.column]

/-- The column between its optional keywords. -/
def template (drop : DropColumn α) : Template α :=
  Template.spaced
    ([Template.word "DROP COLUMN"]
      ++ (if drop.ifExists then [Template.word "IF EXISTS"] else [])
      ++ [Template.ref drop.column]
      ++ drop.cascade.toList.map fun rule => Template.word (Coded.keyword rule))

/-- A column to drop, whose name is a literal. -/
def check (args : DropColumnArgs) : Except Rejection (DropColumn Value) := do
  let column ← checkedText "column" args.column
  let rule ← checkedCode? "cascade" args.cascade
  pure ⟨column, args.ifExists, rule⟩

end DropColumn

/-! ### Renaming a column -/

/-- A column and its new name. -/
structure RenameColumn (α : Type) where
  column : α
  newName : α
deriving DecidableEq

namespace RenameColumn

variable {α β : Type}

/-- Visits the old and the new name. -/
def traverse {m : Type → Type} [Monad m] (f : α → m β) (rename : RenameColumn α) :
    m (RenameColumn β) := do
  let column ← f rename.column
  let newName ← f rename.newName
  pure ⟨column, newName⟩

/-- The old and the new name. -/
def literals (rename : RenameColumn α) : List α := [rename.column, rename.newName]

/-- The old and the new name with their keywords. -/
def template (rename : RenameColumn α) : Template α :=
  Template.spaced
    [Template.word "RENAME COLUMN", Template.ref rename.column, Template.word "TO",
      Template.ref rename.newName]

/-- A column to rename, whose names are literals. -/
def check (args : RenameColumn String) : Except Rejection (RenameColumn Value) := do
  let column ← checkedText "from" args.column
  let newName ← checkedText "to" args.newName
  pure ⟨column, newName⟩

end RenameColumn

/-! ### Altering a column -/

/-- The value that comes with a change of a column. -/
inductive ColumnValue where
  | text (s : String)
  | int (n : Int64)
deriving DecidableEq

/-- The arguments for altering a column.  Which of the value and the collation have to
be there depends on the change. -/
structure AlterColumnArgs where
  column : String
  change : CodeArg ColumnChange
  value : Option ColumnValue
  collation : Option String

namespace AlterColumnArgs

/-- The arguments that change the type of a column. -/
def setDataType (column dataType : String) : AlterColumnArgs :=
  ⟨column, .variant .setDataType, some (.text dataType), none⟩

/-- The arguments that change the default of a column. -/
def setDefault (column default : String) : AlterColumnArgs :=
  ⟨column, .variant .setDefault, some (.text default), none⟩

/-- The arguments that change the statistics target of a column. -/
def setStatistics (column : String) (target : Int64) : AlterColumnArgs :=
  ⟨column, .variant .setStatistics, some (.int target), none⟩

/-- The arguments that change how a column is stored. -/
def setStorage (column : String) (mode : StorageMode) : AlterColumnArgs :=
  ⟨column, .variant .setStorage, some (.int (.ofNat (Coded.code mode))), none⟩

end AlterColumnArgs

/-- A change of a column, with what it needs. -/
inductive ColumnAction (α : Type) where
  | dropNotNull
  | dropDefault
  | setNotNull
  | setDataType (dataType : α) (collation : Option α)
  | setDefault (default : α)
  | setStatistics (target : Int64)
  | setStorage (mode : StorageMode)
deriving DecidableEq

namespace ColumnAction

variable {α β : Type}

/-- Visits the literals in the order in which they are written. -/
def traverse {m : Type → Type} [Monad m] (f : α → m β) :
    ColumnAction α → m (ColumnAction β)
  | .dropNotNull => pure .dropNotNull
  | .dropDefault => pure .dropDefault
  | .setNotNull => pure .setNotNull
  | .setDataType dataType collation => do
    let dataType ← f dataType
    let collation ← collation.mapM f
    pure (.setDataType dataType collation)
  | .setDefault default => do
    let default ← f default
    pure (.setDefault default)
  | .setStatistics target => pure (.setStatistics target)
  | .setStorage mode => pure (.setStorage mode)

/-- The literals in the order in which they are written. -/
def literals : ColumnAction α → List α
  | .setDataType dataType collation => dataType :: collation.toList
  | .setDefault default => [default]
  | _ => []

/-- The change that an action makes. -/
def change : ColumnAction α → ColumnChange
  | .dropNotNull => .dropNotNull
  | .dropDefault => .dropDefault
  | .setNotNull => .setNotNull
  | .setDataType _ _ => .setDataType
  | .setDefault _ => .setDefault
  | .setStatistics _ => .setStatistics
  | .setStorage _ => .setStorage

/-- What is written behind the keyword of the change. -/
def details : ColumnAction α → List (Template α)
  | .dropNotNull | .dropDefault | .setNotNull => []
  | .setDataType dataType collation =>
    Template.ref dataType :: collation.toList.flatMap
      fun collation => [Template.word "COLLATE", Template.ref collation]
  | .setDefault default => [Template.ref default]
  | .setStatistics target => [Template.word (toString target.toInt)]
  | .setStorage mode => [Template.word (Coded.keyword mode)]

/-- A change may only come without a value. -/
def checkNoValue (change : ColumnChange) : Option ColumnValue → Except Rejection Unit
  | none => .ok ()
  | some _ => .error ⟨"value", .valueNotAllowed change⟩

/-- The text that has to come with a change. -/
def checkTextValue (change : ColumnChange) : Option ColumnValue → Except Rejection Value
  | some (.text s) => checkedText "value" s
  | some (.int _) => .error ⟨"value", .valueNotText change⟩
  | none => .error ⟨"value", .valueMissing change⟩

/-- The integer that has to come with a change. -/
def checkIntValue (change : ColumnChange) : Option ColumnValue → Except Rejection Int64
  | some (.int n) => .ok n
  | _ => .error ⟨"value", .valueNotInteger change⟩

/-- A statistics target lies between -1 and 10000. -/
def checkStatistics (n : Int64) : Except Rejection Int64 :=
  if -1 ≤ n.toInt ∧ n.toInt ≤ 10000 then .ok n
  else .error ⟨"value", .statisticsOutOfRange n.toInt⟩

/-- Only a change of the type may come with a collation. -/
def checkCollation (change : ColumnChange) (collation : Option String) :
    Except Rejection Unit :=
  if collation.isSome && change != .setDataType then
    .error ⟨"collation", .collationNotAllowed change⟩
  else .ok ()

/-- The action that a change makes with the given value and collation. -/
def check (change : ColumnChange) (value : Option ColumnValue)
    (collation : Option String) : Except Rejection (ColumnAction Value) := do
  checkCollation change collation
  match change with
  | .dropNotNull =>
    checkNoValue change value
    pure .dropNotNull
  | .dropDefault =>
    checkNoValue change value
    pure .dropDefault
  | .setNotNull =>
    checkNoValue change value
    pure .setNotNull
  | .setDataType =>
    let collation ← checkedText? "collation" collation
    let dataType ← checkTextValue change value
    pure (.setDataType dataType collation)
  | .setDefault =>
    let default ← checkTextValue change value
    pure (.setDefault default)
  | .setStatistics =>
    let n ← checkIntValue change value
    let target ← checkStatistics n
    pure (.setStatistics target)
  | .setStorage =>
    let code ← checkIntValue change value
    let mode ← checkedCode "value" (.code code.toInt)
    pure (.setStorage mode)

end ColumnAction

/-- A column and the change that it undergoes. -/
structure AlterColumn (α : Type) where
  column : α
  action : ColumnAction α
deriving DecidableEq

namespace AlterColumn

variable {α β : Type}

/-- Visits the name of the column and the literals of the change. -/
def traverse {m : Type → Type} [Monad m] (f : α → m β) (alter : AlterColumn α) :
    m (AlterColumn β) := do
  let column ← f alter.column
  let action ← alter.action.traverse f
  pure ⟨column, action⟩

/-- The name of the column and the literals of the change. -/
def literals (alter : AlterColumn α) : List α := alter.column :: alter.action.literals

/-- The column and its change. -/
def template (alter : AlterColumn α) : Template α :=
  Template.spaced
    ([Template.word "ALTER COLUMN", Template.ref alter.column,
        Template.word (Coded.keyword alter.action.change)]
      ++ alter.action.details)

/-- A column to alter, whose texts are literals. -/
def check (args : AlterColumnArgs) : Except Rejection (AlterColumn Value) := do
  let change ← checkedCode "kind" args.change
  let column ← checkedText "column" args.column
  let action ← ColumnAction.check change args.value args.collation
  pure ⟨column, action⟩

end AlterColumn

end BoundSql
