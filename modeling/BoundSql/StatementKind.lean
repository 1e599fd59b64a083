import BoundSql.Grammar.Policy
import BoundSql.Grammar.Publication
import BoundSql.Grammar.Relation
import BoundSql.Grammar.Sequence
import BoundSql.Grammar.Transaction

/-!
# Kinds of statements

`StatementKind` lists the statements that can be put together, and
`StatementKind.grammar` is the grammar of each.
-/

namespace BoundSql

/-- A kind of statement. -/
inductive StatementKind where
  | alterTable | alterIndex | alterSequence | alterPolicy | alterPublication
  | beginTransaction
deriving DecidableEq

/-- The grammar of a kind of statement. -/
def StatementKind.grammar : StatementKind → Grammar
  | .alterTable => BoundSql.alterTable
  | .alterIndex => BoundSql.alterIndex
  | .alterSequence => BoundSql.alterSequence
  | .alterPolicy => BoundSql.alterPolicy
  | .alterPublication => BoundSql.alterPublication
  | .beginTransaction => BoundSql.beginTransaction

end BoundSql
