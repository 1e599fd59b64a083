import BoundSql.Grammar

/-!
# Tables and indexes

`alterTable` is the grammar of

    ALTER TABLE [IF EXISTS] [ONLY] name [*] form
    ALTER TABLE ALL IN TABLESPACE name [OWNED BY role, ...] SET TABLESPACE name [NOWAIT]

where the form is a list of actions, `RENAME COLUMN`, `RENAME TO`, `SET SCHEMA` or
`SET TABLESPACE`, and `ONLY` and `*` exclude each other.  `alterIndex` is the grammar of

    ALTER INDEX [IF EXISTS] name form

where the form is `RENAME TO`, `SET TABLESPACE`, `DEPENDS ON EXTENSION`, which does not
go with `IF EXISTS`, `SET (...)` or `RESET (...)`.
-/

namespace BoundSql

namespace AlterTable

/-- The fields of `ALTER TABLE`. -/
inductive Field where
  | ifExists | only | name | wildcard | allInTablespace | ownedBy | actions
  | renameColumn | renameTo | schema | tablespace | noWait
deriving DecidableEq

/-- The forms that concern one table. -/
def forms : List (StatementForm Field) :=
  [⟨"table actions", [.actions]⟩, ⟨"RENAME COLUMN", [.renameColumn]⟩,
    ⟨"RENAME TO", [.renameTo]⟩, ⟨"SET SCHEMA", [.schema]⟩,
    ⟨"SET TABLESPACE", [.tablespace]⟩]

/-- The order of the fields when one table is altered. -/
def layoutOne (present : Field → Bool) : Except Omission (List Field) := do
  let context := "outside the ALL IN TABLESPACE form"
  refuse "OWNED BY" context (present .ownedBy)
  refuse "NOWAIT" context (present .noWait)
  refuse "ONLY" "together with *" (present .only && present .wildcard)
  let form ← chooseForm present forms
  pure ([.ifExists, .only, .name, .wildcard].filter present ++ form)

/-- The order of the fields when all tables of a tablespace are moved. -/
def layoutAll (present : Field → Bool) : Except Omission (List Field) := do
  let context := "in the ALL IN TABLESPACE form"
  refuse "IF EXISTS" context (present .ifExists)
  refuse "ONLY" context (present .only)
  refuse "*" context (present .wildcard)
  refuse "table actions" context (present .actions)
  refuse "RENAME COLUMN" context (present .renameColumn)
  refuse "RENAME TO" context (present .renameTo)
  refuse "SET SCHEMA" context (present .schema)
  require present "SET TABLESPACE" .tablespace
  pure ([.allInTablespace, .name, .ownedBy, .tablespace, .noWait].filter present)

/-- The order of the fields. -/
def layout (present : Field → Bool) : Except Omission (List Field) := do
  require present "a table name" .name
  if present .allInTablespace then layoutAll present else layoutOne present

end AlterTable

/-- The grammar of `ALTER TABLE`. -/
def alterTable : Grammar where
  Field := AlterTable.Field
  decEq := inferInstance
  fields :=
    [.ifExists, .only, .name, .wildcard, .allInTablespace, .ownedBy, .actions,
      .renameColumn, .renameTo, .schema, .tablespace, .noWait]
  mem_fields := by rintro (_ | _) <;> decide
  label
    | .ifExists => "if_exists"
    | .only => "only"
    | .name => "name"
    | .wildcard => "wildcard"
    | .allInTablespace => "all_in_tablespace"
    | .ownedBy => "owned_by"
    | .actions => "actions"
    | .renameColumn => "rename_column"
    | .renameTo => "rename_to"
    | .schema => "schema"
    | .tablespace => "tablespace"
    | .noWait => "no_wait"
  clause
    | .ifExists => .flag .ifExists
    | .only => .flag .only
    | .name => .literal .name
    | .wildcard => .flag .wildcard
    | .allInTablespace => .flag .allInTablespace
    | .ownedBy => .role .ownedBy
    | .actions => .action
    | .renameColumn => .renameColumn
    | .renameTo => .literal .renameTo
    | .schema => .literal .setSchema
    | .tablespace => .literal .setTablespace
    | .noWait => .flag .noWait
  arity
    | .ownedBy | .actions => .many
    | _ => .one
  command := "ALTER TABLE"
  layout := AlterTable.layout

namespace AlterIndex

/-- The fields of `ALTER INDEX`. -/
inductive Field where
  | ifExists | name | renameTo | tablespace | dependsOnExtension | storageParameters
  | resetParameters
deriving DecidableEq

/-- The forms of `ALTER INDEX`. -/
def forms : List (StatementForm Field) :=
  [⟨"RENAME TO", [.renameTo]⟩, ⟨"SET TABLESPACE", [.tablespace]⟩,
    ⟨"DEPENDS ON EXTENSION", [.dependsOnExtension]⟩,
    ⟨"SET (...)", [.storageParameters]⟩, ⟨"RESET (...)", [.resetParameters]⟩]

/-- The order of the fields. -/
def layout (present : Field → Bool) : Except Omission (List Field) := do
  require present "an index name" .name
  refuse "IF EXISTS" "with DEPENDS ON EXTENSION"
    (present .ifExists && present .dependsOnExtension)
  let form ← chooseForm present forms
  pure ([.ifExists, .name].filter present ++ form)

end AlterIndex

/-- The grammar of `ALTER INDEX`. -/
def alterIndex : Grammar where
  Field := AlterIndex.Field
  decEq := inferInstance
  fields :=
    [.ifExists, .name, .renameTo, .tablespace, .dependsOnExtension, .storageParameters,
      .resetParameters]
  mem_fields := by rintro (_ | _) <;> decide
  label
    | .ifExists => "if_exists"
    | .name => "name"
    | .renameTo => "rename_to"
    | .tablespace => "tablespace"
    | .dependsOnExtension => "depends_on_extension"
    | .storageParameters => "storage_parameters"
    | .resetParameters => "reset_parameters"
  clause
    | .ifExists => .flag .ifExists
    | .name => .literal .name
    | .renameTo => .literal .renameTo
    | .tablespace => .literal .setTablespace
    | .dependsOnExtension => .literal .dependsOnExtension
    | .storageParameters => .setting .setList
    | .resetParameters => .resetting
  arity
    | .storageParameters | .resetParameters => .many
    | _ => .one
  command := "ALTER INDEX"
  layout := AlterIndex.layout

end BoundSql
