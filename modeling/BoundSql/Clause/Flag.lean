import BoundSql.Template

/-!
# Flags

A flag is a keyword that stands in a statement when it is switched on.  `CYCLE` is a
switch of its own, which writes a keyword in both positions.
-/

namespace BoundSql

/-- A keyword that may be switched on. -/
inductive Flag where
  | ifExists | only | wildcard | noWait | allInTablespace
deriving DecidableEq

namespace Flag

/-- The name of a flag in messages. -/
def function : Flag → String
  | .ifExists => "if_exists"
  | .only => "only"
  | .wildcard => "wildcard"
  | .noWait => "no_wait"
  | .allInTablespace => "all_in_tablespace"

/-- The keyword of a flag. -/
def keyword : Flag → String
  | .ifExists => "IF EXISTS"
  | .only => "ONLY"
  | .wildcard => "*"
  | .noWait => "NOWAIT"
  | .allInTablespace => "ALL IN TABLESPACE"

/-- The keyword of a flag that is switched on. -/
def template {α : Type} (flag : Flag) (isOn : Bool) : Option (Template α) :=
  if isOn then some (Template.word flag.keyword) else none

end Flag

/-- The keyword of the cycle switch. -/
def cycleTemplate {α : Type} (isOn : Bool) : Template α :=
  Template.word (if isOn then "CYCLE" else "NO CYCLE")

end BoundSql
