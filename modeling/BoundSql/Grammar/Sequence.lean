import BoundSql.Grammar

/-!
# Sequences

`alterSequence` is the grammar of

    ALTER SEQUENCE [IF EXISTS] name form

where the form is `OWNER TO`, `RENAME TO`, `SET SCHEMA` or any of the options of a
sequence, which have an order of their own.
-/

namespace BoundSql

namespace AlterSequence

/-- The fields of `ALTER SEQUENCE`. -/
inductive Field where
  | ifExists | name | ownerTo | renameTo | schema | dataType | incrementBy | minValue
  | maxValue | startWith | restart | cache | cycle
deriving DecidableEq

/-- The options of a sequence, in the order in which they are written. -/
def options : List Field :=
  [.dataType, .incrementBy, .minValue, .maxValue, .startWith, .restart, .cache, .cycle]

/-- The forms of `ALTER SEQUENCE`. -/
def forms : List (StatementForm Field) :=
  [⟨"OWNER TO", [.ownerTo]⟩, ⟨"RENAME TO", [.renameTo]⟩, ⟨"SET SCHEMA", [.schema]⟩,
    ⟨"sequence options", options⟩]

/-- The order of the fields. -/
def layout (present : Field → Bool) : Except Omission (List Field) := do
  require present "a sequence name" .name
  let form ← chooseForm present forms
  pure ([.ifExists, .name].filter present ++ form)

end AlterSequence

/-- The grammar of `ALTER SEQUENCE`. -/
def alterSequence : Grammar where
  Field := AlterSequence.Field
  decEq := inferInstance
  fields :=
    [.ifExists, .name, .ownerTo, .renameTo, .schema] ++ AlterSequence.options
  mem_fields := by rintro (_ | _) <;> decide
  label
    | .ifExists => "if_exists"
    | .name => "name"
    | .ownerTo => "owner_to"
    | .renameTo => "rename_to"
    | .schema => "schema"
    | .dataType => "data_type"
    | .incrementBy => "increment_by"
    | .minValue => "min_value"
    | .maxValue => "max_value"
    | .startWith => "start_with"
    | .restart => "restart"
    | .cache => "cache"
    | .cycle => "cycle"
  clause
    | .ifExists => .flag .ifExists
    | .name => .literal .name
    | .ownerTo => .role .ownerTo
    | .renameTo => .literal .renameTo
    | .schema => .literal .setSchema
    | .dataType => .literal .asDataType
    | .incrementBy => .quantity .incrementBy
    | .minValue => .limit .minValue
    | .maxValue => .limit .maxValue
    | .startWith => .quantity .startWith
    | .restart => .limit .restart
    | .cache => .quantity .cache
    | .cycle => .cycle
  arity _ := .one
  command := "ALTER SEQUENCE"
  layout := AlterSequence.layout

end BoundSql
