import BoundSql.Clause.Argument
import BoundSql.Registry

/-!
# Conditions of a policy

The condition of a policy is a literal or a query.  A query becomes part of the
statement: its values get tokens of the statement's registry.
-/

namespace BoundSql

/-- The argument of a condition. -/
inductive ExpressionArg where
  | text (s : String)
  | query (query : Query)

/-- A condition: a literal, or a query inside the statement. -/
inductive Expression (α : Type) where
  | literal (a : α)
  | query (absorbed : Absorbed α)

namespace Expression

variable {α β : Type}

/-- Visits the literal, or the entries of the query. -/
def traverse {m : Type → Type} [Monad m] (f : α → m β) :
    Expression α → m (Expression β)
  | .literal a => do
    let b ← f a
    pure (.literal b)
  | .query absorbed => do
    let absorbed ← absorbed.traverse f
    pure (.query absorbed)

/-- The literal, or the entries of the query. -/
def literals : Expression α → List α
  | .literal a => [a]
  | .query absorbed => absorbed.entries

/-- The literal, or the text of the query. -/
def template : Expression α → Template α
  | .literal a => Template.ref a
  | .query absorbed => absorbed.template

/-- The condition that the argument means, for a clause that is called `function`.  Every
token of a query has to name one of its values. -/
def check (function : String) : ExpressionArg → Except Error (Expression Value)
  | .text s =>
    ((checkedText "expression" s).map Expression.literal).mapError (.invalidArgument function)
  | .query q =>
    (q.references.map fun body => Expression.query ⟨body, q.values⟩).mapError .allocation

end Expression

/-- A condition of a policy. -/
inductive Condition where
  | using | withCheck
deriving DecidableEq

namespace Condition

/-- The name of a condition in messages. -/
def function : Condition → String
  | .using => "using"
  | .withCheck => "with_check"

/-- The keyword of a condition. -/
def keyword : Condition → String
  | .using => "USING"
  | .withCheck => "WITH CHECK"

/-- The keyword and the expression in brackets. -/
def template {α : Type} (condition : Condition) (expression : Expression α) : Template α :=
  Template.spaced
    [Template.word condition.keyword, Template.enclosed expression.template]

end Condition

end BoundSql
