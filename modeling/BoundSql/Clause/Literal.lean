import BoundSql.Clause.Argument
import BoundSql.Template

/-!
# Clauses of one literal

The name of the object that a statement is about, and the clauses that consist of a
keyword and one literal.
-/

namespace BoundSql

/-- A clause of one literal. -/
inductive Literal where
  | name | renameTo | setSchema | setTablespace | asDataType | onTable
  | dependsOnExtension
deriving DecidableEq

namespace Literal

/-- The name of a clause in messages. -/
def function : Literal → String
  | .name => "name"
  | .renameTo => "rename_to"
  | .setSchema => "set_schema"
  | .setTablespace => "set_tablespace"
  | .asDataType => "as_data_type"
  | .onTable => "on_table"
  | .dependsOnExtension => "depends_on_extension"

/-- The name of the argument of a clause. -/
def argument : Literal → String
  | .name | .renameTo => "name"
  | .setSchema => "schema"
  | .setTablespace => "tablespace"
  | .asDataType => "data_type"
  | .onTable => "table"
  | .dependsOnExtension => "extension"

/-- The keyword before the literal, if there is one. -/
def keyword? : Literal → Option String
  | .name => none
  | .renameTo => some "RENAME TO"
  | .setSchema => some "SET SCHEMA"
  | .setTablespace => some "SET TABLESPACE"
  | .asDataType => some "AS"
  | .onTable => some "ON"
  | .dependsOnExtension => some "DEPENDS ON EXTENSION"

/-- The keyword and the literal. -/
def template {α : Type} (literal : Literal) (a : α) : Template α :=
  match literal.keyword? with
  | none => Template.ref a
  | some keyword => Template.spaced [Template.word keyword, Template.ref a]

end Literal

end BoundSql
