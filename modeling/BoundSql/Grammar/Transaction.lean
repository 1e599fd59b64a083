import BoundSql.Grammar

/-!
# Transactions

`beginTransaction` is the grammar of

    BEGIN [TRANSACTION | WORK] [mode, ...]
-/

namespace BoundSql

namespace BeginTransaction

/-- The fields of `BEGIN`. -/
inductive Field where
  | action | modes
deriving DecidableEq

end BeginTransaction

/-- The grammar of `BEGIN`. -/
def beginTransaction : Grammar where
  Field := BeginTransaction.Field
  decEq := inferInstance
  fields := [.action, .modes]
  mem_fields := by rintro (_ | _) <;> decide
  label
    | .action => "action"
    | .modes => "modes"
  clause
    | .action => .transactionAction
    | .modes => .mode
  arity
    | .action => .one
    | .modes => .many
  command := "BEGIN"
  layout present := .ok ([.action, .modes].filter present)

end BoundSql
