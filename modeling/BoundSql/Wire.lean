import BoundSql.Value

/-!
# Values on the wire

Each column type has a binary form of its own.  `Value.encode` gives the bytes of a value
for a column type, and `Value.write` appends them to a buffer, which it leaves as it was
when the value cannot be written.  A text is written as it stands, after a version byte
for the types of label trees; numbers are written with the highest byte first; an
integer or a float is narrowed to the width of the column, an integer only if it fits.
`Value.writeChecked` first asks whether any value at all can be written for the type.
-/

namespace BoundSql

/-- A column type: one of those that the server defines, the rarer ones known by their
object identifier, or one of an extension, known by its name. -/
inductive ColumnType where
  | bool | bytea | char | name | int8 | int2 | int4 | text | oid | json | jsonb
  | float4 | float8 | unknown | bpchar | varchar | numeric | uuid | timestamptz | date
  | xml | int4Array | textArray | jsonbArray
  | builtin (oid : UInt32)
  | extension (name : String)
deriving DecidableEq

namespace ColumnType

/-- The types of label trees, whose texts are preceded by a version byte. -/
def labelTypes : List ColumnType :=
  [.extension "ltree", .extension "lquery", .extension "ltxtquery"]

/-- The types that texts are written for. -/
def textTypes : List ColumnType :=
  [.varchar, .text, .bpchar, .name, .unknown, .extension "citext"] ++ labelTypes

/-- The types that integers are written for. -/
def intTypes : List ColumnType := [.int2, .int4, .int8]

/-- The types that floats are written for. -/
def floatTypes : List ColumnType := [.float4, .float8]

/-- The types that JSON documents are written for. -/
def jsonTypes : List ColumnType := [.json, .jsonb]

/-- Decides whether some value can be written for a type. -/
def isWritable (type : ColumnType) : Bool :=
  textTypes.contains type || intTypes.contains type || floatTypes.contains type
    || type = .bool || jsonTypes.contains type

end ColumnType

/-- Why a value cannot be written for a column type. -/
inductive WireFault where
  | wrongType
  | tooLarge
  | tooSmall
deriving DecidableEq

namespace WireFault

/-- The message of a fault, for those that have one of their own. -/
def message? : WireFault → Option String
  | .wrongType => none
  | .tooLarge => some "number too large to fit in target type"
  | .tooSmall => some "number too small to fit in target type"

end WireFault

/-- The lowest `count` bytes of `n` in two's complement, highest byte first. -/
def bytesOfInt : Nat → Int → List UInt8
  | 0, _ => []
  | count + 1, n => bytesOfInt count (n / 256) ++ [UInt8.ofNat (n % 256).toNat]

/-- Half the number of the words of `count` bytes.  An integer column of that width holds
the numbers from minus this limit up to it, the limit itself excluded. -/
def intLimit (count : Nat) : Nat := 1 <<< (8 * count - 1)

/-- The bytes of `n` for an integer column of `count` bytes. -/
def encodeInt (count : Nat) (n : Int) : Except WireFault (List UInt8) :=
  if (intLimit count : Int) ≤ n then .error .tooLarge
  else if n < -(intLimit count : Int) then .error .tooSmall
  else .ok (bytesOfInt count n)

namespace Value

/-- The bytes of a value for a column type. -/
def encode : Value → ColumnType → Except WireFault (List UInt8)
  | .text s, type =>
    if ColumnType.labelTypes.contains type then .ok (1 :: s.toUTF8.toList)
    else if ColumnType.textTypes.contains type then .ok s.toUTF8.toList
    else .error .wrongType
  | .int n, .int2 => encodeInt 2 n.toInt
  | .int n, .int4 => encodeInt 4 n.toInt
  | .int n, .int8 => encodeInt 8 n.toInt
  | .float bits, .float4 => .ok (bytesOfInt 4 (Binary.narrow bits).toNat)
  | .float bits, .float8 => .ok (bytesOfInt 8 bits.toNat)
  | .bool b, .bool => .ok [if b then 1 else 0]
  | .json document, .json => .ok document.compact.toUTF8.toList
  | .json document, .jsonb => .ok (1 :: document.compact.toUTF8.toList)
  | _, _ => .error .wrongType

/-- Appends the bytes of a value for a column type to a buffer. -/
def write (value : Value) (type : ColumnType) (buffer : List UInt8) :
    List UInt8 × Except WireFault Unit :=
  match value.encode type with
  | .ok bytes => (buffer ++ bytes, .ok ())
  | .error fault => (buffer, .error fault)

/-- Appends the bytes of a value to a buffer, unless no value can be written for the
column type. -/
def writeChecked (value : Value) (type : ColumnType) (buffer : List UInt8) :
    List UInt8 × Except WireFault Unit :=
  if type.isWritable then value.write type buffer else (buffer, .error .wrongType)

end Value

end BoundSql
