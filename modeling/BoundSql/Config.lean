import BoundSql.Text.Blank

/-!
# Configuration

A `Config` says how tokens are named and how many of them a statement may have: the sigil
that stands before each number, the first number, and the capacity.  `Config.validate`
refuses a configuration whose tokens could not be told apart from other text or could
not all be numbered.
-/

namespace BoundSql

/-- How tokens are named, and how many there may be. -/
structure Config where
  /-- The text before the number of each token. -/
  sigil : String := "$"
  /-- The number of the first token. -/
  firstId : UInt32 := 1
  /-- The largest number of tokens at a time. -/
  capacity : UInt32 := 65535
deriving DecidableEq

/-- Why a configuration is refused. -/
inductive ConfigFault where
  | emptySigil
  | blankInSigil (sigil : String)
  | sigilEndsInDigit (sigil : String)
  | zeroFirstId
  | zeroCapacity
  | noRoom (firstId capacity : UInt32)
deriving DecidableEq

namespace ConfigFault

/-- The message of a fault. -/
def message : ConfigFault → String
  | .emptySigil => "placeholder_prefix cannot be empty"
  | .blankInSigil sigil =>
    "placeholder_prefix '" ++ sigil ++ "' cannot contain whitespace or NUL"
  | .sigilEndsInDigit sigil =>
    "placeholder_prefix '" ++ sigil ++ "' cannot end with a digit"
  | .zeroFirstId => "first_id must be at least 1"
  | .zeroCapacity => "max_placeholders must be at least 1"
  | .noRoom firstId capacity =>
    "first_id " ++ toString firstId ++ " leaves no room for " ++ toString capacity
      ++ " placeholders"

end ConfigFault

namespace Config

/-- Decides whether a character may not occur in a sigil. -/
def isBarred (c : Char) : Bool := Text.isBlank c || c = '\x00'

/-- Decides whether a text ends in a digit. -/
def endsInDigit (s : String) : Bool := s.toList.getLast?.any Char.isDigit

/-- The first reason to refuse a configuration, if there is one. -/
def fault? (config : Config) : Option ConfigFault :=
  if config.sigil.isEmpty then some .emptySigil
  else if config.sigil.toList.any isBarred then some (.blankInSigil config.sigil)
  else if endsInDigit config.sigil then some (.sigilEndsInDigit config.sigil)
  else if config.firstId = 0 then some .zeroFirstId
  else if config.capacity = 0 then some .zeroCapacity
  else if UInt32.size ≤ config.firstId.toNat + (config.capacity.toNat - 1) then
    some (.noRoom config.firstId config.capacity)
  else none

/-- Refuses a configuration that has a fault. -/
def validate (config : Config) : Except ConfigFault Unit :=
  match config.fault? with
  | some fault => .error fault
  | none => .ok ()

end Config

end BoundSql
