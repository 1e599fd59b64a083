import BoundSql.Grammar

/-!
# Policies

`alterPolicy` is the grammar of

    ALTER POLICY name ON table form

where the form is `RENAME TO` or any of `TO role, ...`, `USING (...)` and
`WITH CHECK (...)`, in this order.
-/

namespace BoundSql

namespace AlterPolicy

/-- The fields of `ALTER POLICY`. -/
inductive Field where
  | name | onTable | renameTo | toRoles | using | withCheck
deriving DecidableEq

/-- The forms of `ALTER POLICY`. -/
def forms : List (StatementForm Field) :=
  [⟨"RENAME TO", [.renameTo]⟩,
    ⟨"TO / USING / WITH CHECK", [.toRoles, .using, .withCheck]⟩]

/-- The order of the fields. -/
def layout (present : Field → Bool) : Except Omission (List Field) := do
  require present "a policy name" .name
  require present "ON table" .onTable
  let form ← chooseForm present forms
  pure ([.name, .onTable].filter present ++ form)

end AlterPolicy

/-- The grammar of `ALTER POLICY`. -/
def alterPolicy : Grammar where
  Field := AlterPolicy.Field
  decEq := inferInstance
  fields := [.name, .onTable, .renameTo, .toRoles, .using, .withCheck]
  mem_fields := by rintro (_ | _) <;> decide
  label
    | .name => "name"
    | .onTable => "on_table"
    | .renameTo => "rename_to"
    | .toRoles => "to_roles"
    | .using => "using"
    | .withCheck => "with_check"
  clause
    | .name => .literal .name
    | .onTable => .literal .onTable
    | .renameTo => .literal .renameTo
    | .toRoles => .role .toRole
    | .using => .condition .using
    | .withCheck => .condition .withCheck
  arity
    | .toRoles => .many
    | _ => .one
  command := "ALTER POLICY"
  layout := AlterPolicy.layout

end BoundSql
