import BoundSql.Json

/-!
# Bound values

A `Value` is what a token stands for: text, a 64-bit integer, a binary64 word, a truth
value or a JSON document.  Narrower numbers become values by widening.  `Value.toJson`
is a value as a JSON document, in which a number that is not finite is written as
`null`.
-/

namespace BoundSql

/-- A value that a token stands for. -/
inductive Value where
  | text (s : String)
  | int (n : Int64)
  | float (bits : UInt64)
  | bool (b : Bool)
  | json (document : Json)

namespace Value

/-- An 8-bit integer as a value. -/
def ofInt8 (n : Int8) : Value := .int n.toInt64

/-- A 16-bit integer as a value. -/
def ofInt16 (n : Int16) : Value := .int n.toInt64

/-- A 32-bit integer as a value. -/
def ofInt32 (n : Int32) : Value := .int n.toInt64

/-- An unsigned 8-bit integer as a value. -/
def ofUInt8 (n : UInt8) : Value := .int (.ofNat n.toNat)

/-- An unsigned 16-bit integer as a value. -/
def ofUInt16 (n : UInt16) : Value := .int (.ofNat n.toNat)

/-- An unsigned 32-bit integer as a value. -/
def ofUInt32 (n : UInt32) : Value := .int (.ofNat n.toNat)

/-- A binary32 word as a value. -/
def ofSingle (bits : UInt32) : Value := .float (Binary.widen bits)

/-- The kind of a value, as it is called in messages. -/
def kind : Value → String
  | .text _ => "text"
  | .int _ => "integer"
  | .float _ => "float"
  | .bool _ => "boolean"
  | .json _ => "json"

/-- The text of a text value. -/
def asText? : Value → Option String
  | .text s => some s
  | _ => none

/-- The integer of an integer value. -/
def asInt? : Value → Option Int64
  | .int n => some n
  | _ => none

/-- A value as a JSON document. -/
def toJson : Value → Json
  | .text s => .text s
  | .int n => .int n.toInt
  | .float bits => .float bits
  | .bool b => .bool b
  | .json document => document

end Value

end BoundSql
