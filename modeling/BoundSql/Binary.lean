/-!
# Binary floating point words

A binary64 word is a sign bit, eleven exponent bits and fifty-two fraction bits; a
binary32 word has one, eight and twenty-three.  `narrow` gives the binary32 word that
is nearest to a binary64 word, a tie going to the even fraction, and `widen` the
binary64 word of the same value as a binary32 word.  A word that is not a number keeps
its sign and the leading bits of its fraction and becomes quiet.
-/

namespace BoundSql

namespace Binary

/-- The weight of the bit above the fraction of a binary64 word. -/
def hidden64 : Nat := 1 <<< 52

/-- The weight of the bit above the fraction of a binary32 word. -/
def hidden32 : Nat := 1 <<< 23

/-- The sign bit of a binary64 word. -/
def sign64 (w : UInt64) : Nat := w.toNat >>> 63

/-- The exponent bits of a binary64 word. -/
def exponent64 (w : UInt64) : Nat := w.toNat / hidden64 % 2048

/-- The fraction bits of a binary64 word. -/
def fraction64 (w : UInt64) : Nat := w.toNat % hidden64

/-- A binary64 word is finite when its exponent bits are not all set. -/
def isFinite (w : UInt64) : Bool := exponent64 w != 2047

/-- The significand `m` and exponent `q` of a finite binary64 word, which stands for
`m * 2 ^ q` up to its sign. -/
def decode (w : UInt64) : Nat × Int :=
  if exponent64 w = 0 then (fraction64 w, -1074)
  else (hidden64 + fraction64 w, exponent64 w - 1075)

/-- The quotient `n / d` rounded to the nearest integer, a tie going to the even one. -/
def divideToEven (n d : Nat) : Nat :=
  let quotient := n / d
  let twice := 2 * (n % d)
  if twice < d then quotient
  else if d < twice then quotient + 1
  else quotient + quotient % 2

/-- The binary32 word, without its sign, that is nearest to `m * 2 ^ q`. -/
def roundToSingle (m : Nat) (q : Int) : Nat :=
  if m = 0 then 0
  else
    let unit := max (-149) ((Nat.log2 m : Int) + q - 23)
    let rounded := divideToEven (m <<< (q - unit).toNat) (1 <<< (unit - q).toNat)
    min (255 * hidden32) ((unit + 149).toNat * hidden32 + rounded)

/-- The binary32 word nearest to a binary64 word.  A word that is not a number keeps the
22 bits of its fraction that follow the quiet bit. -/
def narrow (w : UInt64) : UInt32 :=
  let magnitude :=
    if isFinite w then roundToSingle (decode w).1 (decode w).2
    else if fraction64 w = 0 then 255 * hidden32
    else 255 * hidden32 + hidden32 / 2 + (fraction64 w >>> 29) % (hidden32 / 2)
  UInt32.ofNat (sign64 w <<< 31 + magnitude)

/-- The binary64 word of the same value as a binary32 word. -/
def widen (w : UInt32) : UInt64 :=
  let sign := w.toNat >>> 31
  let exponent := w.toNat / hidden32 % 256
  let fraction := w.toNat % hidden32
  let magnitude :=
    if exponent = 255 then
      if fraction = 0 then 2047 * hidden64
      else 2047 * hidden64 + hidden64 / 2 + (fraction % (hidden32 / 2)) <<< 29
    else if exponent ≠ 0 then (exponent + 896) * hidden64 + fraction <<< 29
    else if fraction = 0 then 0
    else (Nat.log2 fraction + 873) * hidden64 + fraction <<< (52 - Nat.log2 fraction)
  UInt64.ofNat (sign <<< 63 + magnitude)

end Binary

end BoundSql
