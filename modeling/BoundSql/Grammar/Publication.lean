import BoundSql.Grammar

/-!
# Publications

`alterPublication` is the grammar of

    ALTER PUBLICATION name form

where the form is `ADD TABLE`, `SET TABLE` or `DROP TABLE` with a list of tables,
`RENAME TO` or `OWNER TO`.
-/

namespace BoundSql

namespace AlterPublication

/-- The fields of `ALTER PUBLICATION`. -/
inductive Field where
  | name | addTables | setTables | dropTables | renameTo | ownerTo
deriving DecidableEq

/-- The forms of `ALTER PUBLICATION`. -/
def forms : List (StatementForm Field) :=
  [⟨"ADD TABLE", [.addTables]⟩, ⟨"SET TABLE", [.setTables]⟩,
    ⟨"DROP TABLE", [.dropTables]⟩, ⟨"RENAME TO", [.renameTo]⟩,
    ⟨"OWNER TO", [.ownerTo]⟩]

/-- The order of the fields. -/
def layout (present : Field → Bool) : Except Omission (List Field) := do
  require present "a publication name" .name
  let form ← chooseForm present forms
  pure ([.name].filter present ++ form)

end AlterPublication

/-- The grammar of `ALTER PUBLICATION`. -/
def alterPublication : Grammar where
  Field := AlterPublication.Field
  decEq := inferInstance
  fields := [.name, .addTables, .setTables, .dropTables, .renameTo, .ownerTo]
  mem_fields := by rintro (_ | _) <;> decide
  label
    | .name => "name"
    | .addTables => "add_tables"
    | .setTables => "set_tables"
    | .dropTables => "drop_tables"
    | .renameTo => "rename_to"
    | .ownerTo => "owner_to"
  clause
    | .name => .literal .name
    | .addTables => .table .addTable
    | .setTables => .table .setTable
    | .dropTables => .table .dropTable
    | .renameTo => .literal .renameTo
    | .ownerTo => .role .ownerTo
  arity
    | .addTables | .setTables | .dropTables => .many
    | _ => .one
  command := "ALTER PUBLICATION"
  layout := AlterPublication.layout

end BoundSql
