import BoundSql.Clause.Column
import BoundSql.Clause.Storage

/-!
# Actions on a table

A statement may perform several actions on one table: it adds, alters and drops columns,
and sets and resets storage parameters.
-/

namespace BoundSql

/-- The arguments of an action on a table. -/
inductive TableActionArgs where
  | addColumn (args : AddColumn String)
  | alterColumn (args : AlterColumnArgs)
  | dropColumn (args : DropColumnArgs)
  | setStorage (args : List SettingArgs)
  | resetStorage (args : List (CodeArg StorageParameter))

/-- An action on a table. -/
inductive TableAction (α : Type) where
  | addColumn (add : AddColumn α)
  | alterColumn (alter : AlterColumn α)
  | dropColumn (drop : DropColumn α)
  | setStorage (settings : List (Setting α))
  | resetStorage (parameters : List StorageParameter)
deriving DecidableEq

namespace TableActionArgs

/-- The name in messages of the clause that checks the arguments. -/
def function : TableActionArgs → String
  | .addColumn _ => "add_column"
  | .alterColumn _ => "alter_column"
  | .dropColumn _ => "drop_column"
  | .setStorage _ | .resetStorage _ => "table_action"

end TableActionArgs

namespace TableAction

variable {α β : Type}

/-- Visits the literals in the order in which they are written. -/
def traverse {m : Type → Type} [Monad m] (f : α → m β) :
    TableAction α → m (TableAction β)
  | .addColumn add => do
    let add ← add.traverse f
    pure (.addColumn add)
  | .alterColumn alter => do
    let alter ← alter.traverse f
    pure (.alterColumn alter)
  | .dropColumn drop => do
    let drop ← drop.traverse f
    pure (.dropColumn drop)
  | .setStorage settings => do
    let settings ← settings.mapM (Setting.traverse f)
    pure (.setStorage settings)
  | .resetStorage parameters => pure (.resetStorage parameters)

/-- The literals in the order in which they are written. -/
def literals : TableAction α → List α
  | .addColumn add => add.literals
  | .alterColumn alter => alter.literals
  | .dropColumn drop => drop.literals
  | .setStorage settings => settings.flatMap Setting.literals
  | .resetStorage _ => []

/-- The action as it is written in a statement. -/
def template : TableAction α → Template α
  | .addColumn add => add.template
  | .alterColumn alter => alter.template
  | .dropColumn drop => drop.template
  | .setStorage settings =>
    Template.spaced
      [Template.word "SET", Template.enclosed
        (Template.listed (settings.map Setting.template))]
  | .resetStorage parameters =>
    Template.spaced
      [Template.word "RESET", Template.enclosed
        (Template.listed (parameters.map fun p => Template.word (Coded.keyword p)))]

/-- The action that the arguments mean.  An action on storage parameters names at least
one. -/
def check : TableActionArgs → Except Rejection (TableAction Value)
  | .addColumn args => (AddColumn.check args).map .addColumn
  | .alterColumn args => (AlterColumn.check args).map .alterColumn
  | .dropColumn args => (DropColumn.check args).map .dropColumn
  | .setStorage [] => .error ⟨"parameters", .noParameters "SET"⟩
  | .setStorage args => (checkSettings args).map .setStorage
  | .resetStorage [] => .error ⟨"parameters", .noParameters "RESET"⟩
  | .resetStorage args => (checkParameters args).map .resetStorage

end TableAction

end BoundSql
