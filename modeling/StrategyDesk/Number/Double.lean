import StrategyDesk.Number.Power

/-!
# Doubles

The doubles that decimal numbers stand for, and the shortest decimal numbers that stand for them.
A finite double is a significand of at most 53 bits times a power of two, so reading, rounding and
writing are exact arithmetic on natural numbers.
-/

set_option autoImplicit false

namespace StrategyDesk

/-- A double. The significand of a finite one is less than `2 ^ 53`, and the exponent at least
`-1074`. -/
inductive Double where
  | finite (negative : Bool) (significand : Nat) (exponent : Int)
  | infinite (negative : Bool)
  | notANumber
deriving DecidableEq, Repr

namespace Double

def numerator (base number : Nat) (exponent : Int) : Nat := number * power base exponent.toNat

def denominator (base : Nat) (exponent : Int) : Nat := power base (-exponent).toNat

/-- The natural number nearest to a quotient, and the even one of two. -/
def nearest (dividend divisor : Nat) : Nat :=
  let quotient := dividend / divisor
  let twice := 2 * (dividend % divisor)
  if twice > divisor ∨ (twice = divisor ∧ quotient % 2 = 1) then quotient + 1 else quotient

/-- The significand and exponent of the double nearest to a positive quotient, without a bound on
the exponent from above. -/
def nearestParts (dividend divisor : Nat) : Nat × Int :=
  let estimate := max ((dividend.log2 : Int) - divisor.log2 - 53) (-1074)
  let scaled (exponent : Int) : Nat × Nat :=
    (dividend * denominator 2 exponent, divisor * power 2 exponent.toNat)
  let fits := (scaled estimate).1 / (scaled estimate).2 < power 2 53
  let exponent := if fits then estimate else estimate + 1
  let significand := nearest (scaled exponent).1 (scaled exponent).2
  if significand = power 2 53 then (power 2 52, exponent + 1) else (significand, exponent)

def ofDecimal (negative : Bool) (number : Nat) (exponent : Int) : Double :=
  let digits : Int := (Nat.toDigits 10 number).length
  if number = 0 ∨ exponent + digits < -330 then .finite negative 0 0
  else if exponent + digits > 310 then .infinite negative
  else
    let (significand, twos) :=
      nearestParts (numerator 10 number exponent) (denominator 10 exponent)
    if twos > 971 then .infinite negative else .finite negative significand twos

/-- The number of digits before the decimal point of a positive quotient, counted down from an
estimate that is not too small; negative for a quotient below a tenth. -/
def wholeDigits (dividend divisor : Nat) : Nat → Int → Int
  | 0, places => places
  | fuel + 1, places =>
      if dividend * denominator 10 (places - 1) < divisor * power 10 (places - 1).toNat then
        wholeDigits dividend divisor fuel (places - 1)
      else places

/-- The decimal number of `count` digits that stands for the double, the nearer one if there are
two. The number is the result times ten to the power `places - count`. -/
def digitsOf? (significand : Nat) (exponent : Int) (places : Int) (count : Nat) : Option Nat :=
  let tens := places - count
  let dividend := numerator 2 significand exponent * denominator 10 tens
  let divisor := denominator 2 exponent * power 10 tens.toNat
  let low := dividend / divisor
  let candidates :=
    if 2 * (dividend % divisor) < divisor then [low, low + 1] else [low + 1, low]
  candidates.find? fun number =>
    ofDecimal false number tens == .finite false significand exponent

/-- The shortest decimal number that stands for a positive double: its digits, and how many of them
stand before the decimal point. -/
def shortest (significand : Nat) (exponent : Int) : List Char × Int :=
  let dividend := numerator 2 significand exponent
  let divisor := denominator 2 exponent
  let estimate : Int := (Nat.toDigits 10 dividend).length - (Nat.toDigits 10 divisor).length + 1
  let places := wholeDigits dividend divisor 3 estimate
  let found? := (List.range 17).findSome? fun count =>
    (digitsOf? significand exponent places (count + 1)).map fun number => (number, count + 1)
  match found? with
  | none => (['0'], 1)
  | some (number, count) =>
      let digits := Nat.toDigits 10 number
      ((digits.reverse.dropWhile fun c => c == '0').reverse, places + digits.length - count)

/-- Digits with a decimal point after the first `places` of them, and zeros where digits are
missing. -/
def placed (digits : List Char) (places : Int) : List Char :=
  if places ≤ 0 then ['0', '.'] ++ List.replicate (-places).toNat '0' ++ digits
  else if digits.length ≤ places then
    digits ++ List.replicate (places - digits.length).toNat '0'
  else digits.take places.toNat ++ ['.'] ++ digits.drop places.toNat

/-- The shortest decimal number that stands for the double, never in scientific form. -/
def toText : Double → String
  | finite negative significand exponent =>
      let sign := if negative then "-" else ""
      if significand = 0 then sign ++ "0"
      else
        let (digits, places) := shortest significand exponent
        sign ++ String.ofList (placed digits places)
  | infinite negative => if negative then "-inf" else "inf"
  | notANumber => "NaN"

def toPointedText (double : Double) : String :=
  match double with
  | finite .. => if double.toText.contains '.' then double.toText else double.toText ++ ".0"
  | _ => double.toText

def isZero : Double → Bool
  | finite _ significand _ => significand == 0
  | _ => false

/-- The natural number below `bound` that is nearest to the double, the larger one of two. Doubles
beyond either end yield that end. -/
def toNatural (bound : Nat) : Double → Nat
  | finite negative significand exponent =>
      let dividend := numerator 2 significand exponent
      let divisor := denominator 2 exponent
      if negative then 0 else min ((2 * dividend + divisor) / (2 * divisor)) (bound - 1)
  | infinite negative => if negative then 0 else bound - 1
  | notANumber => 0

end Double

end StrategyDesk
