import BoundSql.Clause.Argument
import BoundSql.Template

/-!
# Tables of a publication

A table is given by its name, alone or together with its descendants; it cannot be both.
The arguments of a table are a table whose name is plain text.
-/

namespace BoundSql

/-- A table, alone or with its descendants where one of them is asked for. -/
structure TableTarget (α : Type) where
  name : α
  only : Bool
  descendants : Bool
deriving DecidableEq

namespace TableTarget

variable {α β : Type}

/-- Visits the name. -/
def traverse {m : Type → Type} [Monad m] (f : α → m β) (table : TableTarget α) :
    m (TableTarget β) := do
  let name ← f table.name
  pure ⟨name, table.only, table.descendants⟩

/-- The name. -/
def literals (table : TableTarget α) : List α := [table.name]

/-- The name between `ONLY` and `*`, where these apply. -/
def template (table : TableTarget α) : Template α :=
  if table.only then Template.spaced [Template.word "ONLY", Template.ref table.name]
  else if table.descendants then
    Template.spaced [Template.ref table.name, Template.word "*"]
  else Template.ref table.name

/-- Refuses a table that is both alone and with its descendants. -/
def checkScope (args : TableTarget String) : Except Rejection Unit :=
  if args.only && args.descendants then .error ⟨"descendants", .onlyWithDescendants⟩
  else .ok ()

/-- A table whose name is a literal. -/
def check (args : TableTarget String) : Except Rejection (TableTarget Value) := do
  checkScope args
  let name ← checkedText "name" args.name
  pure ⟨name, args.only, args.descendants⟩

end TableTarget

/-- A list of tables. -/
inductive TableList where
  | addTable | setTable | dropTable
deriving DecidableEq

namespace TableList

/-- The name of a list in messages. -/
def function : TableList → String
  | .addTable => "add_table"
  | .setTable => "set_table"
  | .dropTable => "drop_table"

/-- The keyword of a list. -/
def keyword : TableList → String
  | .addTable => "ADD TABLE"
  | .setTable => "SET TABLE"
  | .dropTable => "DROP TABLE"

end TableList

end BoundSql
