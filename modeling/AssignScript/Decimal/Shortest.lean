/-!
# Shortest decimals

A binary fraction `m * 2 ^ q` stands for every real number that rounds to it. Among the decimals in that
interval the ones with the fewest digits are chosen, of these the nearest, and of two equally near the
larger.

## Main definitions

* `Decimal`: a number written as digits and a power of ten;
* `Decimal.floorLog10`: the position of the leading digit of a fraction;
* `Decimal.shortest`: the decimal chosen for a binary fraction.
-/

namespace AssignScript

/-- The number `digits * 10 ^ exponent`. -/
structure Decimal where
  /-- The digits as a whole number. -/
  digits : Nat
  /-- The power of ten that they count. -/
  exponent : Int
  deriving DecidableEq, Repr

namespace Decimal

/-- How many decimal digits a number has. -/
def digitCount (n : Nat) : Nat :=
  (Nat.toDigits 10 n).length

/-- The greatest `e` with `10 ^ e ≤ num / den`. The counts of digits leave two candidates. -/
def floorLog10 (num den : Nat) : Int :=
  let e := (digitCount num : Int) - digitCount den
  let reached := if 0 ≤ e then den * Nat.pow 10 e.toNat ≤ num else den ≤ num * Nat.pow 10 (-e).toNat
  if reached then e else e - 1

/-- Removes trailing zeros, raising the exponent instead; `fuel` bounds their number. -/
def stripZeros : Nat → Decimal → Decimal
  | 0, d => d
  | fuel + 1, d =>
    if d.digits ≠ 0 ∧ d.digits % 10 = 0 then stripZeros fuel ⟨d.digits / 10, d.exponent + 1⟩ else d

/-- The real numbers that round to a binary fraction, as fractions over one denominator. -/
structure Interval where
  /-- Numerator of the least number, or of the bound below all. -/
  low : Nat
  /-- Numerator of the binary fraction itself. -/
  value : Nat
  /-- Numerator of the greatest number, or of the bound above all. -/
  high : Nat
  /-- The common denominator. -/
  denominator : Nat
  /-- Whether the two bounds belong to the interval. -/
  closed : Bool

namespace Interval

/-- The interval of `m * 2 ^ q`: half a unit up, and half a unit down, or a quarter where the
    numbers below are twice as dense. The bounds round to even. -/
def ofBinary (m : Nat) (q : Int) (denserBelow : Bool) : Interval :=
  let up := Nat.pow 2 (q - 2).toNat
  let down := Nat.pow 2 (2 - q).toNat
  ⟨(4 * m - if denserBelow then 1 else 2) * up, 4 * m * up, (4 * m + 2) * up, down, m % 2 = 0⟩

/-- The same interval in units of `10 ^ k`. -/
def inUnits (i : Interval) (k : Int) : Interval :=
  let up := Nat.pow 10 (-k).toNat
  let down := Nat.pow 10 k.toNat
  ⟨i.low * up, i.value * up, i.high * up, i.denominator * down, i.closed⟩

/-- Whether a whole number lies in the interval. -/
def holds (i : Interval) (d : Nat) : Bool :=
  let n := d * i.denominator
  if i.closed then i.low ≤ n && n ≤ i.high else i.low < n && n < i.high

/-- The whole number of the interval that is nearest to its value, the larger of two. -/
def nearest? (i : Interval) : Option Nat :=
  let d := i.value / i.denominator
  let below := i.value - d * i.denominator
  let above := (d + 1) * i.denominator - i.value
  if i.holds d && (below < above || !i.holds (d + 1)) then some d
  else if i.holds (d + 1) then some (d + 1)
  else none

end Interval

/-- Tries `count` digits, then one more, as long as `fuel` lasts. -/
def searchFrom (i : Interval) (leading : Int) : (fuel count : Nat) → Decimal
  | 0, count =>
    let k := leading - count + 1
    ⟨(i.inUnits k).value / (i.inUnits k).denominator, k⟩
  | fuel + 1, count =>
    let k := leading - count + 1
    match (i.inUnits k).nearest? with
    | some d => ⟨d, k⟩
    | none => searchFrom i leading fuel (count + 1)

/-- The shortest decimal for a positive binary fraction `m * 2 ^ q`. -/
def shortest (m : Nat) (q : Int) (denserBelow : Bool) : Decimal :=
  let i := Interval.ofBinary m q denserBelow
  let d := searchFrom i (floorLog10 i.value i.denominator) 17 1
  stripZeros (digitCount d.digits) d

end Decimal

end AssignScript
