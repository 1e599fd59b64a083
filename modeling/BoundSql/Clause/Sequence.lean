import BoundSql.Error
import BoundSql.Template

/-!
# Options of a sequence

The numbers of a sequence are part of its definition and not literals, so they are
written out.  A `Quantity` is an option that always has a number; a `Limit` may be given
without one, which takes it back to its default.
-/

namespace BoundSql

/-- A sequence option with a number. -/
inductive Quantity where
  | incrementBy | startWith | cache
deriving DecidableEq

namespace Quantity

/-- The name of an option in messages. -/
def function : Quantity → String
  | .incrementBy => "increment_by"
  | .startWith => "start_with"
  | .cache => "cache"

/-- The keyword of an option. -/
def keyword : Quantity → String
  | .incrementBy => "INCREMENT BY"
  | .startWith => "START WITH"
  | .cache => "CACHE"

/-- An increment may not be zero, and a cache holds at least one number. -/
def check (quantity : Quantity) (n : Int64) : Except Rejection Int64 :=
  match quantity with
  | .incrementBy => if n.toInt = 0 then .error ⟨"increment", .zeroIncrement⟩ else .ok n
  | .startWith => .ok n
  | .cache => if n.toInt < 1 then .error ⟨"cache", .cacheBelowOne n.toInt⟩ else .ok n

/-- The keyword and the number. -/
def template {α : Type} (quantity : Quantity) (n : Int64) : Template α :=
  Template.spaced [Template.word quantity.keyword, Template.word (toString n.toInt)]

end Quantity

/-- A sequence option with a number that may be absent. -/
inductive Limit where
  | minValue | maxValue | restart
deriving DecidableEq

namespace Limit

/-- The name of an option in messages. -/
def function : Limit → String
  | .minValue => "min_value"
  | .maxValue => "max_value"
  | .restart => "restart_with"

/-- The keyword of an option with a number. -/
def keyword : Limit → String
  | .minValue => "MINVALUE"
  | .maxValue => "MAXVALUE"
  | .restart => "RESTART WITH"

/-- What is written for an option without a number. -/
def default : Limit → String
  | .minValue => "NO MINVALUE"
  | .maxValue => "NO MAXVALUE"
  | .restart => "RESTART"

/-- The keyword and the number, or the default. -/
def template {α : Type} (limit : Limit) : Option Int64 → Template α
  | none => Template.word limit.default
  | some n => Template.spaced [Template.word limit.keyword, Template.word (toString n.toInt)]

end Limit

end BoundSql
