import AssignScript.Decimal.Shortest

/-!
# Writing numbers

How a double-precision number is written: the shortest digits that read back, with a point among them or
an exponent behind them, depending on size.

## Main definitions

* `Decimal.Notation`: the decisions of one way of writing;
* `Decimal.Notation.write`: the text of a number.
-/

namespace AssignScript.Decimal

/-- The decisions of one way of writing numbers. -/
structure Notation where
  /-- The least exponent of the leading digit that is written without an exponent. -/
  leastPlain : Int
  /-- The greatest exponent of the leading digit that is written without an exponent. -/
  greatestPlain : Int
  /-- What follows the digits of a whole number. -/
  wholeMark : String
  /-- What stands before the exponent. -/
  exponentMark : String
  /-- The text of infinity. -/
  infinity : String
  /-- The text of what is not a number. -/
  notANumber : String

/-- Digits with a point after the first `n` of them. -/
def withPoint (digits : List Char) (n : Nat) : String :=
  String.ofList (digits.take n) ++ "." ++ String.ofList (digits.drop n)

namespace Notation

/-- The text of a decimal whose last digit is not zero. -/
def writeDecimal (style : Notation) (d : Decimal) : String :=
  let digits := Nat.toDigits 10 d.digits
  let leading := d.exponent + (digits.length : Int) - 1
  if style.leastPlain ≤ leading ∧ leading ≤ style.greatestPlain then
    if 0 ≤ d.exponent then
      String.ofList (digits ++ List.replicate d.exponent.toNat '0') ++ style.wholeMark
    else if 0 ≤ leading then withPoint digits (leading.toNat + 1)
    else withPoint ('0' :: (List.replicate (-leading - 1).toNat '0' ++ digits)) 1
  else
    let mantissa := if digits.length ≤ 1 then String.ofList digits else withPoint digits 1
    mantissa ++ style.exponentMark ++ toString leading

/-- The weight of the hidden bit of a mantissa, `2 ^ 52`. -/
def hiddenBit : Nat := 0x10000000000000

/-- The text of a number. Its bits give a sign, an exponent of eleven bits and a mantissa of
    fifty-two; the least exponent has no hidden bit. -/
def write (style : Notation) (x : Float) : String :=
  let bits : Nat := x.toBits.toNat
  let negative := bits / hiddenBit / 2048 = 1
  let biased := bits / hiddenBit % 2048
  let fraction := bits % hiddenBit
  let sign := if negative then "-" else ""
  if biased = 2047 then
    if fraction = 0 then sign ++ style.infinity else style.notANumber
  else if biased = 0 ∧ fraction = 0 then sign ++ "0" ++ style.wholeMark
  else if biased = 0 then sign ++ style.writeDecimal (shortest fraction (-1074) false)
  else
    let denserBelow := fraction = 0 ∧ 1 < biased
    sign ++ style.writeDecimal (shortest (hiddenBit + fraction) ((biased : Int) - 1075) denserBelow)

end Notation

end AssignScript.Decimal
