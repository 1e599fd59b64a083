import BoundSql.Proofs.Codec
import Mathlib.Tactic.Linarith
import Mathlib.Tactic.Ring

/-!
# Integers in two's complement

An integer is written for a column with as many bytes as the column is wide.  `intOfBytes` reads
bytes as a number in two's complement, highest byte first, and it takes the bytes that are
written back to the integer.  An integer that does not fit into the column is not cut off but
refused, so that the bytes determine the integer (`Codecs.integers_are_never_truncated`).
-/

namespace BoundSql

/-! ### Reading bytes as numbers -/

/-- The number whose digits to the base of 256 are the given bytes, highest first. -/
def natOfBytes (bytes : List UInt8) : Nat :=
  bytes.foldl (fun n byte => 256 * n + byte.toNat) 0

/-- The number that the given bytes stand for in two's complement, highest byte first. -/
def intOfBytes (bytes : List UInt8) : Int :=
  if 2 * natOfBytes bytes < 256 ^ bytes.length then natOfBytes bytes
  else natOfBytes bytes - 256 ^ bytes.length

@[simp]
theorem length_bytesOfInt (count : Nat) (n : Int) :
  (bytesOfInt count n).length = count
  := by
  induction count generalizing n with
  | zero => rfl
  | succ count ih => rw [bytesOfInt, List.length_append, ih, List.length_singleton]

theorem natOfBytes_append_singleton (bytes : List UInt8) (byte : UInt8) :
  natOfBytes (bytes ++ [byte]) = 256 * natOfBytes bytes + byte.toNat
  := by
  rw [natOfBytes, List.foldl_append]
  rfl

/-- The last digit of a remainder modulo a power is the last digit of the number, and the other
digits are a remainder of the other digits. -/
theorem emod_pow_succ (n : Int) (count : Nat) :
  n % 256 ^ (count + 1) = 256 * (n / 256 % 256 ^ count) + n % 256
  := by
  have hpos : (0 : Int) < 256 ^ count := by positivity
  have hlow := Int.emod_nonneg (n / 256) hpos.ne'
  have hhigh := Int.emod_lt_of_pos (n / 256) hpos
  have hdigits := Int.mul_ediv_add_emod (n / 256) (256 ^ count)
  apply ((Int.ediv_emod_unique (q := n / 256 / 256 ^ count) (by positivity)).mpr _).2
  rw [pow_succ]
  refine ⟨?_, by omega, by omega⟩
  calc 256 * (n / 256 % 256 ^ count) + n % 256 + 256 ^ count * 256 * (n / 256 / 256 ^ count)
    _ = 256 * (256 ^ count * (n / 256 / 256 ^ count) + n / 256 % 256 ^ count) + n % 256 := by
      ring
    _ = n := by rw [hdigits, Int.mul_ediv_add_emod]

/-- The bytes of an integer are the digits of its remainder. -/
theorem natOfBytes_bytesOfInt (count : Nat) (n : Int) :
  (natOfBytes (bytesOfInt count n) : Int) = n % 256 ^ count
  := by
  induction count generalizing n with
  | zero => rw [pow_zero, Int.emod_one]; rfl
  | succ count ih =>
    have hdigit : ((UInt8.ofNat (n % 256).toNat).toNat : Int) = n % 256 := by
      rw [UInt8.toNat_ofNat']
      omega
    rw [bytesOfInt, natOfBytes_append_singleton, Nat.cast_add, Nat.cast_mul, ih, hdigit,
      emod_pow_succ]
    rfl

/-- The bytes of an integer that fits into them stand for the integer. -/
theorem intOfBytes_bytesOfInt {count : Nat} {n : Int} (hcount : 0 < count)
    (h : FitsBytes count n) :
  intOfBytes (bytesOfInt count n) = n
  := by
  obtain ⟨hlow, hhigh⟩ := h
  have hpow : (256 : Int) ^ count = 2 * 2 ^ (8 * count - 1) := by
    rw [show (256 : Int) = 2 ^ 8 from rfl, ← pow_mul, ← pow_succ', Nat.sub_add_cancel (by omega)]
  have hdigits := natOfBytes_bytesOfInt count n
  simp only [intOfBytes, length_bytesOfInt]
  zify
  rcases le_or_gt 0 n with hn | hn
  · rw [Int.emod_eq_of_lt hn (by linarith)] at hdigits
    rw [hdigits, if_pos (by linarith)]
  · rw [← Int.add_emod_right, Int.emod_eq_of_lt (by linarith) (by linarith)] at hdigits
    rw [hdigits, if_neg (by linarith), add_sub_cancel_right]

example : intOfBytes [255, 254] = -2 := by decide

/-! ### Integer columns -/

/-- The number of bytes of an integer column. -/
def ColumnType.intWidth? : ColumnType → Option Nat
  | .int2 => some 2
  | .int4 => some 4
  | .int8 => some 8
  | _ => none

/-- The values that narrower integers become, with the integers. -/
inductive IsWidened : Value → Int → Prop
  | int8 (n : Int8) : IsWidened (.ofInt8 n) n.toInt
  | int16 (n : Int16) : IsWidened (.ofInt16 n) n.toInt
  | int32 (n : Int32) : IsWidened (.ofInt32 n) n.toInt
  | uint8 (n : UInt8) : IsWidened (.ofUInt8 n) n.toNat
  | uint16 (n : UInt16) : IsWidened (.ofUInt16 n) n.toNat
  | uint32 (n : UInt32) : IsWidened (.ofUInt32 n) n.toNat

/-- Widening keeps an integer. -/
theorem IsWidened.exists_eq_int {value : Value} {original : Int} (h : IsWidened value original) :
  ∃ n : Int64, value = .int n ∧ n.toInt = original
  := by
  cases h with
  | int8 n => exact ⟨_, rfl, n.toInt_toInt64⟩
  | int16 n => exact ⟨_, rfl, n.toInt_toInt64⟩
  | int32 n => exact ⟨_, rfl, n.toInt_toInt64⟩
  | uint8 n => exact ⟨_, rfl, Int64.toInt_ofNat_of_lt (by have := n.toNat_lt; omega)⟩
  | uint16 n => exact ⟨_, rfl, Int64.toInt_ofNat_of_lt (by have := n.toNat_lt; omega)⟩
  | uint32 n => exact ⟨_, rfl, Int64.toInt_ofNat_of_lt (by have := n.toNat_lt; omega)⟩

section

variable {type : ColumnType} {width : Nat}

theorem pos_of_intWidth? (h : type.intWidth? = some width) :
  0 < width
  := by
  cases type <;> cases h <;> decide

theorem encode_int_of_intWidth? (h : type.intWidth? = some width) (n : Int64) :
  (Value.int n).encode type = encodeInt width n.toInt
  := by
  cases type <;> cases h <;> rfl

theorem encode_int_of_intWidth?_eq_none (h : type.intWidth? = none) (n : Int64) :
  (Value.int n).encode type = .error .wrongType
  := by
  cases type <;> first | rfl | cases h

/-- An integer that fits into a column is written, with as many bytes as the column is wide, and
they stand for the integer. -/
theorem write_int_of_fitsBytes (h : type.intWidth? = some width) {n : Int64}
    (hn : FitsBytes width n.toInt) :
  ∃ bytes, bytes.length = width ∧ intOfBytes bytes = n.toInt
    ∧ ∀ buffer, (Value.int n).write type buffer = (buffer ++ bytes, .ok ())
  := by
  use bytesOfInt width n.toInt, length_bytesOfInt width n.toInt,
    intOfBytes_bytesOfInt (pos_of_intWidth? h) hn
  intro buffer
  rw [Value.write, encode_int_of_intWidth? h, encodeInt_of_fitsBytes hn]

theorem write_int_of_le (h : type.intWidth? = some width) {n : Int64}
    (hn : 2 ^ (8 * width - 1) ≤ n.toInt) (buffer : List UInt8) :
  (Value.int n).write type buffer = (buffer, .error .tooLarge)
  := by
  rw [Value.write, encode_int_of_intWidth? h, encodeInt_of_le hn]

theorem write_int_of_lt (h : type.intWidth? = some width) {n : Int64}
    (hn : n.toInt < -2 ^ (8 * width - 1)) (buffer : List UInt8) :
  (Value.int n).write type buffer = (buffer, .error .tooSmall)
  := by
  rw [Value.write, encode_int_of_intWidth? h, encodeInt_of_lt hn]

/-- Bytes that are written for an integer stand for the integer. -/
theorem intOfBytes_of_write_int {n : Int64} {buffer bytes : List UInt8}
    (h : (Value.int n).write type buffer = (buffer ++ bytes, .ok ())) :
  intOfBytes bytes = n.toInt
  := by
  have hencode := Value.encode_eq_ok_of_write h
  cases hwidth : type.intWidth? with
  | none =>
    rw [encode_int_of_intWidth?_eq_none hwidth] at hencode
    cases hencode
  | some width =>
    rw [encode_int_of_intWidth? hwidth] at hencode
    have hn := exists_encodeInt_eq_ok_iff.mp ⟨bytes, hencode⟩
    rw [encodeInt_of_fitsBytes hn] at hencode
    obtain rfl := Except.ok.inj hencode
    apply intOfBytes_bytesOfInt (pos_of_intWidth? hwidth) hn

end

/-! ### No integer is cut off -/

namespace Codecs

/-- If the codecs of integers write two's complement, then an integer that fits into a column is
written with as many bytes as the column is wide, which stand for the integer, and an integer that
does not fit is refused and leaves the buffer as it is.  Two integers are equal if the same bytes
are written for them, and an integer that has been widened is what the bytes that are written for
an `int8` column stand for. -/
theorem integers_are_never_truncated {codecs : Codecs} (h : codecs.WriteIntegers) :
  (∀ n type width, type.intWidth? = some width →
    (FitsBytes width n.toInt → ∃ bytes, bytes.length = width ∧ intOfBytes bytes = n.toInt
      ∧ ∀ buffer, codecs.write (.int n) type buffer = (buffer ++ bytes, .ok ()))
    ∧ (2 ^ (8 * width - 1) ≤ n.toInt →
      ∀ buffer, codecs.write (.int n) type buffer = (buffer, .error .tooLarge))
    ∧ (n.toInt < -2 ^ (8 * width - 1) →
      ∀ buffer, codecs.write (.int n) type buffer = (buffer, .error .tooSmall)))
  ∧ (∀ m n type bytes first second,
    codecs.write (.int m) type first = (first ++ bytes, .ok ()) →
      codecs.write (.int n) type second = (second ++ bytes, .ok ()) → m = n)
  ∧ (∀ value original, IsWidened value original →
    ∃ bytes, bytes.length = 8 ∧ intOfBytes bytes = original
      ∧ ∀ buffer, codecs.write value .int8 buffer = (buffer ++ bytes, .ok ()))
  ∧ ∀ n type buffer, codecs.write (.int n) type buffer = (Value.int n).write type buffer
  := by
  simp only [h.write_int_eq]
  refine ⟨?columns, ?injective, ?widened, ?same⟩
  case columns =>
    intro n type width hwidth
    exact ⟨write_int_of_fitsBytes hwidth, write_int_of_le hwidth, write_int_of_lt hwidth⟩
  case injective =>
    intro m n type bytes first second hm hn
    apply Int64.toInt.inj
    rw [← intOfBytes_of_write_int hm, ← intOfBytes_of_write_int hn]
  case widened =>
    intro value original hvalue
    obtain ⟨n, rfl, rfl⟩ := hvalue.exists_eq_int
    simp only [h.write_int_eq]
    apply write_int_of_fitsBytes rfl (fitsBytes_toInt n)
  case same => simp

/-- The greatest number of an `int2` column is written for it, and the next one is refused. -/
theorem integers_are_never_truncated_of_int2_boundary :
  standard.WriteIntegers
  ∧ (∃ bytes, bytes.length = 2 ∧ intOfBytes bytes = 32767
    ∧ ∀ buffer, standard.write (.int 32767) .int2 buffer = (buffer ++ bytes, .ok ()))
  ∧ ∀ buffer, standard.write (.int 32768) .int2 buffer = (buffer, .error .tooLarge)
  := by
  have h := areStandard_standard.toWriteIntegers
  use h
  use ((integers_are_never_truncated h).1 32767 .int2 2 rfl).1 (by decide)
  apply ((integers_are_never_truncated h).1 32768 .int2 2 rfl).2.1 (by decide)

end Codecs

end BoundSql
