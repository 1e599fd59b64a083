import BoundSql.Wire
import Mathlib.Tactic.Positivity
import Mathlib.Tactic.Use

/-!
# Writing through codecs

The bytes of a value are written by the codec of the type that holds it: a text by the codec of
texts, an integer by the codec for the width of the column, and so on.  `Codecs.write` hands a
value over to one of eight codecs, and `Codecs.writeChecked` first asks whether any of the eight
accepts the column type.  If the codecs write what they are documented to write, then the check
never makes a difference, a value is written exactly for the column types that suit it, and a
buffer that is not written to stays as it is (`Codecs.checked_and_unchecked_agree`).
`Value.write` is the same writing with the bytes of each codec put in its place.
-/

namespace BoundSql

/-! ### One codec -/

/-- What writes the values of one type: it accepts some column types, and appends to a buffer. -/
structure Codec (α : Type) where
  accepts : ColumnType → Bool
  write : α → ColumnType → List UInt8 → List UInt8 × Except WireFault Unit

namespace Codec

variable {α : Type}

/-- Writes a value, unless the codec does not accept the column type. -/
def writeChecked (codec : Codec α) (a : α) (type : ColumnType) (buffer : List UInt8) :
    List UInt8 × Except WireFault Unit :=
  if codec.accepts type then codec.write a type buffer else (buffer, .error .wrongType)

/-- Writes what an integer is narrowed to, if it can be narrowed. -/
def writeNarrowed (codec : Codec α) (narrow : Except WireFault α) (type : ColumnType)
    (buffer : List UInt8) : List UInt8 × Except WireFault Unit :=
  match narrow with
  | .ok a => codec.write a type buffer
  | .error fault => (buffer, .error fault)

/-- A codec accepts the listed column types, and for these it appends the given bytes.  What it
does for other column types, unless it is asked first, is left open. -/
structure Writes (codec : Codec α) (types : List ColumnType)
    (bytes : α → ColumnType → List UInt8) : Prop where
  accepts_iff : ∀ type, codec.accepts type ↔ type ∈ types
  write_eq : ∀ a, ∀ type ∈ types, ∀ buffer,
    codec.write a type buffer = (buffer ++ bytes a type, .ok ())

/-- The codec that accepts the listed column types and appends the given bytes, whatever the
column type. -/
def ofBytes (types : List ColumnType) (bytes : α → ColumnType → List UInt8) : Codec α where
  accepts := types.contains
  write a type buffer := (buffer ++ bytes a type, .ok ())

theorem writes_ofBytes (types : List ColumnType) (bytes : α → ColumnType → List UInt8) :
  (ofBytes types bytes).Writes types bytes
  where
  accepts_iff _ := List.contains_iff_mem
  write_eq _ _ _ _ := rfl

theorem Writes.writeChecked_eq {codec : Codec α} {types : List ColumnType}
    {bytes : α → ColumnType → List UInt8} (h : codec.Writes types bytes)
    (a : α) (type : ColumnType) (buffer : List UInt8) :
  codec.writeChecked a type buffer
    = if type ∈ types then (buffer ++ bytes a type, .ok ()) else (buffer, .error .wrongType)
  := by
  simp only [writeChecked, h.accepts_iff]
  split_ifs with htype
  · apply h.write_eq a type htype
  · rfl

end Codec

/-! ### Eight codecs -/

/-- The codecs for the types that hold the values: those of the values themselves, and the
narrower numbers. -/
structure Codecs where
  text : Codec String
  int16 : Codec Int16
  int32 : Codec Int32
  int64 : Codec Int64
  single : Codec UInt32
  double : Codec UInt64
  bool : Codec Bool
  json : Codec Json

/-- An integer in a narrower type, whose numbers are those of `count` bytes. -/
def narrowed {α : Type} (count : Nat) (cast : Int64 → α) (n : Int64) : Except WireFault α :=
  if (intLimit count : Int) ≤ n.toInt then .error .tooLarge
  else if n.toInt < -(intLimit count : Int) then .error .tooSmall
  else .ok (cast n)

namespace Codecs

/-- Decides whether one of the codecs accepts a column type. -/
def accepts (codecs : Codecs) (type : ColumnType) : Bool :=
  codecs.text.accepts type || codecs.int16.accepts type || codecs.int32.accepts type
    || codecs.int64.accepts type || codecs.single.accepts type || codecs.double.accepts type
    || codecs.bool.accepts type || codecs.json.accepts type

/-- Appends a value to a buffer.  A number for a narrow column is written by the codec of that
width without asking whether it accepts the column type. -/
def write (codecs : Codecs) :
    Value → ColumnType → List UInt8 → List UInt8 × Except WireFault Unit
  | .text s, type => codecs.text.writeChecked s type
  | .int n, .int2 => codecs.int16.writeNarrowed (narrowed 2 Int64.toInt16 n) .int2
  | .int n, .int4 => codecs.int32.writeNarrowed (narrowed 4 Int64.toInt32 n) .int4
  | .int n, type => codecs.int64.writeChecked n type
  | .float bits, .float4 => codecs.single.write (Binary.narrow bits) .float4
  | .float bits, type => codecs.double.writeChecked bits type
  | .bool b, type => codecs.bool.writeChecked b type
  | .json document, type => codecs.json.writeChecked document type

/-- Appends a value to a buffer, unless none of the codecs accepts the column type. -/
def writeChecked (codecs : Codecs) (value : Value) (type : ColumnType) (buffer : List UInt8) :
    List UInt8 × Except WireFault Unit :=
  if codecs.accepts type then codecs.write value type buffer else (buffer, .error .wrongType)

end Codecs

/-! ### The documented codecs -/

/-- The bytes of a text: its own, after a version byte for a label tree. -/
def textBytes (s : String) (type : ColumnType) : List UInt8 :=
  if ColumnType.labelTypes.contains type then 1 :: s.toUTF8.toList else s.toUTF8.toList

/-- The bytes of a JSON document: those of its text, after a version byte for `jsonb`. -/
def jsonBytes (document : Json) (type : ColumnType) : List UInt8 :=
  if type = .jsonb then 1 :: document.compact.toUTF8.toList else document.compact.toUTF8.toList

namespace Codecs

/-- The codecs of integers accept the column type of their width, and write an integer in two's
complement, highest byte first. -/
structure WriteIntegers (codecs : Codecs) : Prop where
  int16 : codecs.int16.Writes [.int2] fun n _ => bytesOfInt 2 n.toInt
  int32 : codecs.int32.Writes [.int4] fun n _ => bytesOfInt 4 n.toInt
  int64 : codecs.int64.Writes [.int8] fun n _ => bytesOfInt 8 n.toInt

/-- All the codecs accept and write what they are documented to accept and write. -/
structure AreStandard (codecs : Codecs) : Prop extends codecs.WriteIntegers where
  text : codecs.text.Writes ColumnType.textTypes textBytes
  single : codecs.single.Writes [.float4] fun bits _ => bytesOfInt 4 bits.toNat
  double : codecs.double.Writes [.float8] fun bits _ => bytesOfInt 8 bits.toNat
  bool : codecs.bool.Writes [.bool] fun b _ => [if b then 1 else 0]
  json : codecs.json.Writes ColumnType.jsonTypes jsonBytes

/-- Codecs that write the documented bytes. -/
def standard : Codecs where
  text := .ofBytes ColumnType.textTypes textBytes
  int16 := .ofBytes [.int2] fun n _ => bytesOfInt 2 n.toInt
  int32 := .ofBytes [.int4] fun n _ => bytesOfInt 4 n.toInt
  int64 := .ofBytes [.int8] fun n _ => bytesOfInt 8 n.toInt
  single := .ofBytes [.float4] fun bits _ => bytesOfInt 4 bits.toNat
  double := .ofBytes [.float8] fun bits _ => bytesOfInt 8 bits.toNat
  bool := .ofBytes [.bool] fun b _ => [if b then 1 else 0]
  json := .ofBytes ColumnType.jsonTypes jsonBytes

theorem areStandard_standard :
  standard.AreStandard
  where
  text := Codec.writes_ofBytes _ _
  int16 := Codec.writes_ofBytes _ _
  int32 := Codec.writes_ofBytes _ _
  int64 := Codec.writes_ofBytes _ _
  single := Codec.writes_ofBytes _ _
  double := Codec.writes_ofBytes _ _
  bool := Codec.writes_ofBytes _ _
  json := Codec.writes_ofBytes _ _

end Codecs

/-! ### Integers of a width -/

/-- The numbers that `count` bytes stand for in two's complement. -/
def FitsBytes (count : Nat) (n : Int) : Prop :=
  -(2 ^ (8 * count - 1) : Int) ≤ n ∧ n < (2 ^ (8 * count - 1) : Int)

instance (count : Nat) (n : Int) : Decidable (FitsBytes count n) :=
  inferInstanceAs (Decidable (_ ∧ _))

theorem intLimit_eq (count : Nat) :
  (intLimit count : Int) = 2 ^ (8 * count - 1)
  := by
  rw [intLimit, Nat.shiftLeft_eq, one_mul, Nat.cast_pow, Nat.cast_ofNat]

theorem encodeInt_of_fitsBytes {count : Nat} {n : Int} (h : FitsBytes count n) :
  encodeInt count n = .ok (bytesOfInt count n)
  := by
  rw [encodeInt, intLimit_eq, if_neg (not_le.mpr h.2), if_neg (not_lt.mpr h.1)]

theorem encodeInt_of_le {count : Nat} {n : Int} (h : 2 ^ (8 * count - 1) ≤ n) :
  encodeInt count n = .error .tooLarge
  := by
  rw [encodeInt, intLimit_eq, if_pos h]

theorem encodeInt_of_lt {count : Nat} {n : Int} (h : n < -2 ^ (8 * count - 1)) :
  encodeInt count n = .error .tooSmall
  := by
  have hn : n < 2 ^ (8 * count - 1) := by
    apply lt_of_lt_of_le h
    apply neg_le_self
    positivity
  rw [encodeInt, intLimit_eq, if_neg (not_le.mpr hn), if_pos h]

theorem exists_encodeInt_eq_ok_iff {count : Nat} {n : Int} :
  (∃ bytes, encodeInt count n = .ok bytes) ↔ FitsBytes count n
  := by
  constructor
  · rintro ⟨bytes, hbytes⟩
    constructor
    · by_contra hsmall
      rw [encodeInt_of_lt (not_le.mp hsmall)] at hbytes
      cases hbytes
    · by_contra hlarge
      rw [encodeInt_of_le (not_lt.mp hlarge)] at hbytes
      cases hbytes
  · intro h
    use bytesOfInt count n
    apply encodeInt_of_fitsBytes h

theorem fitsBytes_toInt (n : Int64) :
  FitsBytes 8 n.toInt
  := by
  have hlow := n.le_toInt
  have hhigh := n.toInt_lt
  simp only [FitsBytes]
  omega

theorem toInt_toInt16_of_fitsBytes {n : Int64} (h : FitsBytes 2 n.toInt) :
  n.toInt16.toInt = n.toInt
  := by
  simp only [FitsBytes] at h
  rw [Int64.toInt_toInt16, Int.bmod_eq_of_le] <;> omega

theorem toInt_toInt32_of_fitsBytes {n : Int64} (h : FitsBytes 4 n.toInt) :
  n.toInt32.toInt = n.toInt
  := by
  simp only [FitsBytes] at h
  rw [Int64.toInt_toInt32, Int.bmod_eq_of_le] <;> omega

/-! ### A value through its codec -/

theorem Value.encode_text (s : String) (type : ColumnType) :
  (Value.text s).encode type
    = if type ∈ ColumnType.textTypes then .ok (textBytes s type) else .error .wrongType
  := by
  have hlabel : type ∈ ColumnType.labelTypes → type ∈ ColumnType.textTypes :=
    List.mem_append_right _
  simp only [Value.encode, textBytes, List.contains_iff_mem]
  split_ifs with h <;> first | rfl | exact absurd (hlabel h) ‹_›

namespace Codec.Writes

variable {α : Type} {codec : Codec α}

/-- A codec writes a value as the value is written, if its bytes are those of the value. -/
theorem writeChecked_eq_write {types : List ColumnType} {bytes : α → ColumnType → List UInt8}
    (h : codec.Writes types bytes) {a : α} {value : Value} {type : ColumnType}
    (hvalue : value.encode type
      = if type ∈ types then .ok (bytes a type) else .error .wrongType)
    (buffer : List UInt8) :
  codec.writeChecked a type buffer = value.write type buffer
  := by
  rw [h.writeChecked_eq, Value.write, hvalue]
  split_ifs <;> rfl

/-- A codec of narrower integers writes an integer as it is written for their width, if narrowing
changes no integer of that width. -/
theorem writeNarrowed_eq_write {type : ColumnType} {count : Nat} {toInt : α → Int}
    (h : codec.Writes [type] fun a _ => bytesOfInt count (toInt a))
    {cast : Int64 → α} {n : Int64} (hcast : FitsBytes count n.toInt → toInt (cast n) = n.toInt)
    (hvalue : (Value.int n).encode type = encodeInt count n.toInt) (buffer : List UInt8) :
  codec.writeNarrowed (narrowed count cast n) type buffer = (Value.int n).write type buffer
  := by
  have hwrite := h.write_eq (cast n) type (List.mem_singleton_self type) buffer
  simp only [Value.write, hvalue, encodeInt, narrowed]
  split_ifs with hlarge hsmall
  · rfl
  · rfl
  · have hn : FitsBytes count n.toInt := by
      rw [FitsBytes, ← intLimit_eq]
      omega
    rw [writeNarrowed, hwrite, hcast hn]

end Codec.Writes

namespace Codecs

theorem WriteIntegers.write_int_eq {codecs : Codecs} (h : codecs.WriteIntegers) (n : Int64)
    (type : ColumnType) (buffer : List UInt8) :
  codecs.write (.int n) type buffer = (Value.int n).write type buffer
  := by
  cases type
  case int2 => apply h.int16.writeNarrowed_eq_write toInt_toInt16_of_fitsBytes rfl buffer
  case int4 => apply h.int32.writeNarrowed_eq_write toInt_toInt32_of_fitsBytes rfl buffer
  case int8 =>
    apply h.int64.writeChecked_eq_write
    apply encodeInt_of_fitsBytes (fitsBytes_toInt n)
  all_goals exact h.int64.writeChecked_eq_write rfl buffer

theorem AreStandard.write_eq {codecs : Codecs} (h : codecs.AreStandard) (value : Value)
    (type : ColumnType) (buffer : List UInt8) :
  codecs.write value type buffer = value.write type buffer
  := by
  cases value with
  | text s =>
    apply h.text.writeChecked_eq_write
    apply Value.encode_text
  | int n => apply h.write_int_eq
  | float bits =>
    cases type
    case float4 =>
      apply h.single.write_eq
      apply List.mem_singleton_self
    all_goals exact h.double.writeChecked_eq_write rfl buffer
  | bool b =>
    apply h.bool.writeChecked_eq_write
    cases type <;> rfl
  | json document =>
    apply h.json.writeChecked_eq_write
    cases type <;> rfl

theorem AreStandard.accepts_eq {codecs : Codecs} (h : codecs.AreStandard) (type : ColumnType) :
  codecs.accepts type = type.isWritable
  := by
  rw [Bool.eq_iff_iff]
  simp only [Codecs.accepts, Bool.or_eq_true, h.text.accepts_iff, h.int16.accepts_iff,
    h.int32.accepts_iff, h.int64.accepts_iff, h.single.accepts_iff, h.double.accepts_iff,
    h.bool.accepts_iff, h.json.accepts_iff, ColumnType.isWritable, ColumnType.intTypes,
    ColumnType.floatTypes, List.contains_iff_mem, List.mem_cons, List.not_mem_nil, or_false,
    decide_eq_true_eq, or_assoc]

theorem AreStandard.writeChecked_eq {codecs : Codecs} (h : codecs.AreStandard) (value : Value)
    (type : ColumnType) (buffer : List UInt8) :
  codecs.writeChecked value type buffer = value.writeChecked type buffer
  := by
  rw [Codecs.writeChecked, Value.writeChecked, h.accepts_eq, h.write_eq]

end Codecs

/-! ### The column types that suit a value -/

namespace Value

/-- The column types that a value can be written for: those of its own kind, if an integer is
not too large for the width of the column. -/
def Suits : Value → ColumnType → Prop
  | .text _, .varchar | .text _, .text | .text _, .bpchar | .text _, .name
  | .text _, .unknown => True
  | .text _, .extension name => name ∈ ["citext", "ltree", "lquery", "ltxtquery"]
  | .int n, .int2 => FitsBytes 2 n.toInt
  | .int n, .int4 => FitsBytes 4 n.toInt
  | .int _, .int8 => True
  | .float _, .float4 | .float _, .float8 => True
  | .bool _, .bool => True
  | .json _, .json | .json _, .jsonb => True
  | _, _ => False

theorem suits_text_iff {s : String} {type : ColumnType} :
  (Value.text s).Suits type ↔ type ∈ ColumnType.textTypes
  := by
  cases type <;> simp [Suits, ColumnType.textTypes, ColumnType.labelTypes]

theorem suits_iff_encode {value : Value} {type : ColumnType} :
  value.Suits type ↔ ∃ bytes, value.encode type = .ok bytes
  := by
  cases value with
  | text s =>
    rw [suits_text_iff, encode_text]
    split_ifs with htext <;> simp [htext]
  | int n =>
    cases type
    case int2 => apply exists_encodeInt_eq_ok_iff.symm
    case int4 => apply exists_encodeInt_eq_ok_iff.symm
    case int8 => exact iff_of_true trivial (exists_encodeInt_eq_ok_iff.mpr (fitsBytes_toInt n))
    all_goals simp [Suits, encode]
  | float bits => cases type <;> simp [Suits, encode]
  | bool b => cases type <;> simp [Suits, encode]
  | json document => cases type <;> simp [Suits, encode]

theorem encode_of_not_isWritable {value : Value} {type : ColumnType} (h : ¬ type.isWritable) :
  value.encode type = .error .wrongType
  := by
  cases value with
  | text s =>
    rw [encode_text, if_neg]
    intro htext
    apply h
    simp [ColumnType.isWritable, htext]
  | int | float | bool | json =>
    -- a column type with an equation of its own is writable
    cases type <;> first | rfl | exact absurd rfl h

theorem isWritable_of_suits {value : Value} {type : ColumnType} (h : value.Suits type) :
  type.isWritable
  := by
  obtain ⟨bytes, hbytes⟩ := suits_iff_encode.mp h
  by_contra hwritable
  rw [encode_of_not_isWritable hwritable] at hbytes
  cases hbytes

/-- Asking first whether any value can be written makes no difference. -/
theorem writeChecked_eq_write (value : Value) (type : ColumnType) (buffer : List UInt8) :
  value.writeChecked type buffer = value.write type buffer
  := by
  rw [writeChecked]
  split_ifs with hwritable
  · rfl
  · rw [write, encode_of_not_isWritable hwritable]

/-- A value that suits a column type has bytes, which are appended to any buffer. -/
theorem write_of_suits {value : Value} {type : ColumnType} (h : value.Suits type) :
  ∃ bytes, ∀ buffer, value.write type buffer = (buffer ++ bytes, .ok ())
  := by
  obtain ⟨bytes, hbytes⟩ := suits_iff_encode.mp h
  use bytes
  intro buffer
  rw [write, hbytes]

theorem encode_eq_ok_of_write {value : Value} {type : ColumnType} {buffer bytes : List UInt8}
    (h : value.write type buffer = (buffer ++ bytes, .ok ())) :
  value.encode type = .ok bytes
  := by
  cases hencode : value.encode type with
  | ok written =>
    rw [write, hencode] at h
    rw [List.append_cancel_left (Prod.mk.inj h).1]
  | error fault =>
    rw [write, hencode] at h
    nomatch (Prod.mk.inj h).2

/-- A value that does not suit a column type leaves any buffer as it is. -/
theorem write_of_not_suits {value : Value} {type : ColumnType} (h : ¬ value.Suits type) :
  ∃ fault, ∀ buffer, value.write type buffer = (buffer, .error fault)
  := by
  cases hencode : value.encode type with
  | ok bytes => exact absurd (suits_iff_encode.mpr ⟨bytes, hencode⟩) h
  | error fault =>
    use fault
    intro buffer
    rw [write, hencode]

end Value

/-! ### Asking first -/

namespace Codecs

/-- If all codecs write what they are documented to write, then a value is written alike whether
or not it is asked first if any codec accepts the column type.  A value that suits the column
type has bytes that are appended to any buffer, and its column type is accepted; any other value
fails, and leaves any buffer as it is. -/
theorem checked_and_unchecked_agree {codecs : Codecs} (h : codecs.AreStandard) (value : Value)
    (type : ColumnType) :
  (∀ buffer, codecs.writeChecked value type buffer = codecs.write value type buffer
    ∧ value.write type buffer = codecs.write value type buffer
    ∧ value.writeChecked type buffer = codecs.writeChecked value type buffer)
  ∧ type.isWritable = codecs.accepts type
  ∧ (value.Suits type → codecs.accepts type
      ∧ ∃ bytes, ∀ buffer, codecs.write value type buffer = (buffer ++ bytes, .ok ()))
  ∧ (¬ value.Suits type →
      ∃ fault, ∀ buffer, codecs.write value type buffer = (buffer, .error fault))
  := by
  refine ⟨?agree, ?accepts, ?suits, ?fails⟩
  case agree =>
    intro buffer
    rw [h.writeChecked_eq, h.write_eq, Value.writeChecked_eq_write]
    exact ⟨rfl, rfl, rfl⟩
  case accepts => apply (h.accepts_eq type).symm
  case suits =>
    intro hsuits
    simp only [h.accepts_eq, h.write_eq]
    exact ⟨Value.isWritable_of_suits hsuits, Value.write_of_suits hsuits⟩
  case fails =>
    intro hsuits
    simp only [h.write_eq]
    apply Value.write_of_not_suits hsuits

/-- The number 70000 is written for `int4` and not for `int2`. -/
theorem checked_and_unchecked_agree_of_seventyThousand :
  standard.AreStandard
  ∧ (∃ bytes, ∀ buffer, standard.write (.int 70000) .int4 buffer = (buffer ++ bytes, .ok ()))
  ∧ (∃ fault, ∀ buffer, standard.write (.int 70000) .int2 buffer = (buffer, .error fault))
  := by
  have hwide : FitsBytes 4 (70000 : Int64).toInt := by decide
  have hnarrow : ¬ FitsBytes 2 (70000 : Int64).toInt := by decide
  use areStandard_standard
  use ((checked_and_unchecked_agree areStandard_standard (.int 70000) .int4).2.2.1 hwide).2
  apply (checked_and_unchecked_agree areStandard_standard (.int 70000) .int2).2.2.2 hnarrow

end Codecs

end BoundSql
