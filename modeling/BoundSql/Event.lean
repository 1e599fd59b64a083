import BoundSql.Error
import BoundSql.Json

/-!
# Events

An `Event` reports a step of the library's work to whoever listens.  `Event.report` is
an event as a JSON document: where it comes from, how important it is, what has happened
and the details of it.
-/

namespace BoundSql

/-- A report of a step of the library's work. -/
inductive Event where
  /-- A registry has issued a token. -/
  | issued (id : Nat) (sigil : String)
  /-- A registry has dropped its tokens. -/
  | released (count : Nat)
  /-- A registry has taken in the values of a query. -/
  | absorbed (count : Nat)
  /-- A clause has refused its arguments. -/
  | rejected (clause : String) (error : Error)
  /-- A clause has been cleared; a repeatable one says how many items it had. -/
  | cleared (clause : String) (items : Option Nat)
  /-- A clause holds a token that its registry does not know. -/
  | stale (clause token : String)
  /-- A statement has been built. -/
  | built (command : String) (count : Nat) (sql : String)
deriving DecidableEq

namespace Event

/-- The part of the library that an event comes from. -/
def target : Event → String
  | .issued _ _ | .released _ | .absorbed _ => "pgclause.placeholder"
  | .rejected _ _ | .cleared _ _ | .stale _ _ => "pgclause.clause"
  | .built _ _ _ => "pgclause.sql"

/-- How important an event is. -/
def level : Event → String
  | .issued _ _ | .released _ | .absorbed _ => "trace"
  | .rejected _ _ | .cleared _ _ | .built _ _ _ => "debug"
  | .stale _ _ => "error"

/-- What has happened. -/
def message : Event → String
  | .issued _ _ => "allocate"
  | .released _ => "reset"
  | .absorbed _ => "sub-query"
  | .rejected _ _ => "rejected"
  | .cleared _ _ => "cleared"
  | .stale _ _ => "placeholder does not belong to the statement registry"
  | .built _ _ _ => "built"

/-- The details of an event. -/
def details : Event → List (String × Json)
  | .issued id sigil => [("id", .int id), ("prefix", .text sigil)]
  | .released count => [("released", .int count)]
  | .absorbed count => [("absorbed", .int count)]
  | .rejected clause error => [("clause", .text clause), ("error", .text error.message)]
  | .cleared clause none => [("clause", .text clause)]
  | .cleared clause (some items) => [("clause", .text clause), ("items", .int items)]
  | .stale clause token => [("clause", .text clause), ("placeholder", .text token)]
  | .built command count sql =>
    [("statement", .text command), ("param_count", .int count), ("sql", .text sql)]

/-- An event as a JSON document. -/
def report (event : Event) : Json :=
  Json.ofMembers
    ([("target", .text event.target), ("level", .text event.level),
      ("message", .text event.message)] ++ event.details)

end Event

end BoundSql
