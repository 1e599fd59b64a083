import BoundSql.Decimal.Shortest
import BoundSql.Text.Quoted

/-!
# JSON documents

`Json` is a JSON document.  Its objects list their members by key, in the order of code
points; `Json.ofMembers` brings members into that order.  `Json.compact` writes a
document without blanks.  A number is an integer or a binary64 word, and `floatText`
writes the latter with the fewest digits that read back.
-/

namespace BoundSql

/-- A JSON document. -/
inductive Json where
  | null
  | bool (b : Bool)
  | int (n : Int)
  | float (bits : UInt64)
  | text (s : String)
  | array (items : List Json)
  | object (members : List (String × Json))

namespace Json

/-- Puts a member in its place by key, where it replaces a member of the same key. -/
def insertMember (key : String) (value : Json) :
    List (String × Json) → List (String × Json)
  | [] => [(key, value)]
  | member :: members =>
    if key < member.1 then (key, value) :: member :: members
    else if key = member.1 then (key, value) :: members
    else member :: insertMember key value members

/-- The object with the given members; of two with the same key the later one counts. -/
def ofMembers (members : List (String × Json)) : Json :=
  .object (members.foldl (fun sorted member => insertMember member.1 member.2 sorted) [])

/-- The text of `count` zeros. -/
def zeros (count : Nat) : String := String.ofList (List.replicate count '0')

/-- The text of an exponent, whose sign is always written. -/
def exponentText (n : Int) : String :=
  (if n < 0 then "e-" else "e+") ++ toString n.natAbs

/-- Writes a decimal.  Up to sixteen digits stand before the point, or up to four zeros
between the point and the first digit; beyond that one digit stands before the point, and
the exponent is written out. -/
def decimalText (d : Decimal) : String :=
  let digits := toString d.digits
  let point := (digits.length : Int) + d.exponent
  if 0 ≤ d.exponent ∧ point ≤ 16 then digits ++ zeros d.exponent.toNat ++ ".0"
  else if 0 < point ∧ point ≤ 16 then
    (digits.take point.toNat).copy ++ "." ++ (digits.drop point.toNat).copy
  else if -5 < point ∧ point ≤ 0 then "0." ++ zeros (-point).toNat ++ digits
  else if digits.length = 1 then digits ++ exponentText (point - 1)
  else
    (digits.take 1).copy ++ "." ++ (digits.drop 1).copy ++ exponentText (point - 1)

/-- The text of a binary64 word: its shortest decimal, and `null` for a word that is not
finite. -/
def floatText (bits : UInt64) : String :=
  if Binary.isFinite bits then
    let sign := if Binary.sign64 bits = 1 then "-" else ""
    let number := Binary.decode bits
    if number.1 = 0 then sign ++ "0.0"
    else sign ++ decimalText (Decimal.shortest number.1 number.2)
  else "null"

mutual

/-- The text of a document, without blanks. -/
def compact : Json → String
  | .null => "null"
  | .bool b => if b then "true" else "false"
  | .int n => toString n
  | .float bits => floatText bits
  | .text s => Text.quote s
  | .array items => "[" ++ ",".intercalate (compactItems items) ++ "]"
  | .object members => "\x7b" ++ ",".intercalate (compactMembers members) ++ "\x7d"

/-- The texts of the items of an array. -/
def compactItems : List Json → List String
  | [] => []
  | item :: items => compact item :: compactItems items

/-- The texts of the members of an object. -/
def compactMembers : List (String × Json) → List String
  | [] => []
  | (key, value) :: members =>
    (Text.quote key ++ ":" ++ compact value) :: compactMembers members

end

end Json

end BoundSql
