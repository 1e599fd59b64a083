import BoundSql.Binary

/-!
# The fewest digits that read back

`shortest m q` is the decimal with the fewest digits among those that round to the
binary64 number `m * 2 ^ q`; of two such decimals it is the nearer one, and of two that
are equally near the even one.  The decimals that round to a number form an interval
around it, which contains its ends exactly when `m` is even.
-/

namespace BoundSql

/-- The number `digits * 10 ^ exponent`. -/
structure Decimal where
  digits : Nat
  exponent : Int
deriving DecidableEq

namespace Decimal

/-- The numbers that round to `value`, all in units of `2 ^ scale`. -/
structure Interval where
  low : Nat
  value : Nat
  high : Nat
  scale : Int
  closed : Bool

/-- The interval of the numbers that round to `m * 2 ^ q`.  Its lower half is shorter
when the next binary64 number below has a smaller exponent. -/
def Interval.around (m : Nat) (q : Int) : Interval where
  low := if m = Binary.hidden64 ∧ -1074 < q then 4 * m - 1 else 4 * m - 2
  value := 4 * m
  high := 4 * m + 2
  scale := q - 2
  closed := m % 2 = 0

/-- The factor that brings a count of `2 ^ scale` to the common unit of
`2 ^ scale` and `10 ^ k`. -/
def binaryFactor (scale k : Int) : Nat := Nat.pow 10 (-k).toNat <<< scale.toNat

/-- The factor that brings a count of `10 ^ k` to the common unit of `2 ^ scale` and
`10 ^ k`. -/
def decimalFactor (scale k : Int) : Nat :=
  Nat.pow 10 k.toNat <<< (-scale).toNat

/-- Decides whether `d * 10 ^ k` is a number of the interval. -/
def Interval.contains (range : Interval) (d : Nat) (k : Int) : Bool :=
  let low := range.low * binaryFactor range.scale k
  let high := range.high * binaryFactor range.scale k
  let point := d * decimalFactor range.scale k
  if range.closed then low ≤ point && point ≤ high else low < point && point < high

/-- The multiple of `10 ^ k` in the interval that is nearest to its value, if the
interval contains a neighbour of the value. -/
def Interval.nearest? (range : Interval) (k : Int) : Option Nat :=
  let value := range.value * binaryFactor range.scale k
  let unit := decimalFactor range.scale k
  let below := value / unit
  match range.contains below k, range.contains (below + 1) k with
  | true, true =>
    let rest := 2 * (value % unit)
    if rest < unit then some below
    else if unit < rest then some (below + 1)
    else some (below + below % 2)
  | true, false => some below
  | false, true => some (below + 1)
  | false, false => none

/-- The largest power of ten with a multiple in the interval, tried from
`10 ^ (n - 344)` downwards, together with that multiple. -/
def Interval.search (range : Interval) : Nat → Option Decimal
  | 0 => none
  | n + 1 =>
    let k := (n : Int) - 344
    match range.nearest? k with
    | some digits => some ⟨digits, k⟩
    | none => range.search n

/-- The shortest decimal that rounds to `m * 2 ^ q`. -/
def shortest (m : Nat) (q : Int) : Decimal :=
  ((Interval.around m q).search 654).getD ⟨m, 0⟩

end Decimal

end BoundSql
