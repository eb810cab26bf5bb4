import AssignScript.Decimal.Natural
import AssignScript.Decimal.Shortest

/-!
# Reading numbers

The texts that stand for a number: digits with an optional point among them and an optional exponent
behind them, or a word for infinity or for what is not a number, each with an optional sign.

## Main definitions

* `Decimal.readNumeral?`: the decimal that a text writes, not yet rounded;
* `Decimal.readFloat?`, `Decimal.readSingle?`: the nearest number of double or single precision.
-/

namespace AssignScript.Decimal

open Text

/-- Reads what follows the digits: nothing, or an exponent. -/
def readExponent? : List Char → Option Int
  | [] => some 0
  | mark :: cs =>
    if mark = 'e' ∨ mark = 'E' then
      let (negative, digits) := match cs with
        | '-' :: ds => (true, ds)
        | '+' :: ds => (false, ds)
        | ds => (false, ds)
      if !digits.isEmpty && digits.all isAsciiDigit then
        let n : Int := digitsValue digits
        some (if negative then -n else n)
      else none
    else none

/-- Reads digits, an optional point among them, and an optional exponent. -/
def readNumeral? (cs : List Char) : Option Decimal := do
  let whole := cs.takeWhile isAsciiDigit
  let rest := cs.dropWhile isAsciiDigit
  let (fraction, rest) := match rest with
    | '.' :: ds => (ds.takeWhile isAsciiDigit, ds.dropWhile isAsciiDigit)
    | ds => ([], ds)
  let written := whole ++ fraction
  guard (!written.isEmpty)
  let exponent ← readExponent? rest
  return ⟨digitsValue written, exponent - fraction.length⟩

/-- The nearest number, given a function that rounds `digits * 10 ^ e` or `digits / 10 ^ e`. What is
    surely beyond the range of every format is not computed. -/
def round {α : Type} (d : Decimal) (scientific : Nat → Bool → Nat → α) (zero infinity : α) : α :=
  let size := d.exponent + digitCount d.digits
  if d.digits = 0 ∨ size < -400 then zero
  else if 400 < size then infinity
  else scientific d.digits (d.exponent < 0) d.exponent.natAbs

/-- The special words: infinity, and what is not a number. -/
def readWord? {α : Type} (infinity notANumber : α) (cs : List Char) : Option α :=
  let word := String.ofList (cs.map Char.toLower)
  if word = "inf" ∨ word = "infinity" then some infinity
  else if word = "nan" then some notANumber
  else none

/-- Reads a sign and hands the rest on. -/
def readSigned {α : Type} (negate : α → α) (read : List Char → Option α) :
    List Char → Option α
  | '-' :: cs => (read cs).map negate
  | '+' :: cs => read cs
  | cs => read cs

/-- The double-precision number nearest to what a text writes. -/
def readFloat? (text : String) : Option Float :=
  readSigned (fun x => -x) (fun cs =>
    match readWord? (1.0 / 0.0 : Float) (0.0 / 0.0) cs with
    | some x => some x
    | none => (readNumeral? cs).map fun d => d.round Float.ofScientific 0.0 (1.0 / 0.0))
    text.toList

/-- The single-precision number nearest to what a text writes. -/
def readSingle? (text : String) : Option Float32 :=
  readSigned (fun x => -x) (fun cs =>
    match readWord? (1.0 / 0.0 : Float32) (0.0 / 0.0) cs with
    | some x => some x
    | none => (readNumeral? cs).map fun d => d.round Float32.ofScientific 0.0 (1.0 / 0.0))
    text.toList

end AssignScript.Decimal
