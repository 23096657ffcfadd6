import StrategyDesk.Number.Double
import StrategyDesk.Number.Power
import StrategyDesk.Toml.Lexical

/-!
# Numbers of TOML

Integers of 64 bits in four bases and doubles, with underscores between digits.
-/

set_option autoImplicit false

namespace StrategyDesk.Toml

/-- The digits of a numeral, in which single underscores may stand between digits. -/
def digitsOf? (base : Nat) : Text → Option Text
  | [] => none
  | [c] => (digitValue? base c).map fun _ => [c]
  | c :: '_' :: rest => do
      let _ ← digitValue? base c
      (digitsOf? base rest).map (c :: ·)
  | c :: rest => do
      let _ ← digitValue? base c
      (digitsOf? base rest).map (c :: ·)

def plainDigits? (text : Text) : Option Text := do
  let digits ← digitsOf? 10 text
  if digits.head? = some '0' ∧ text.length ≠ 1 then none else some digits

/-- The sign of a numeral, and what follows it. -/
def splitSign : Text → Bool × Text
  | '-' :: rest => (true, rest)
  | '+' :: rest => (false, rest)
  | text => (false, text)

def bounded? (number : Int) : Option Int :=
  if isSigned64 number then some number else none

/-- A whole text as an integer. Only decimal ones have a sign. -/
def integer? (text : Text) : Option Int :=
  match text with
  | '0' :: 'x' :: rest => do bounded? (← numeral? 16 (← digitsOf? 16 rest))
  | '0' :: 'o' :: rest => do bounded? (← numeral? 8 (← digitsOf? 8 rest))
  | '0' :: 'b' :: rest => do bounded? (← numeral? 2 (← digitsOf? 2 rest))
  | _ => do
      let (negative, unsigned) := splitSign text
      let magnitude : Int ← numeral? 10 (← plainDigits? unsigned)
      bounded? (if negative then -magnitude else magnitude)

def splitAt? (p : Char → Bool) (text : Text) : Text × Option Text :=
  match text.dropWhile fun c => !p c with
  | [] => (text, none)
  | _ :: after => (text.takeWhile fun c => !p c, some after)

def exponent? (text : Text) : Option Int := do
  let (negative, unsigned) := splitSign text
  let magnitude : Int ← numeral? 10 (← digitsOf? 10 unsigned)
  pure (if negative then -magnitude else magnitude)

/-- A whole text as a double. One that is too large is none, unless it is negative. -/
def double? (text : Text) : Option Double := do
  let (negative, unsigned) := splitSign text
  if unsigned = ['i', 'n', 'f'] then pure (.infinite negative)
  else if unsigned = ['n', 'a', 'n'] then pure .notANumber
  else
    let (significand, power?) := splitAt? (fun c => c == 'e' || c == 'E') unsigned
    let (whole, places?) := splitAt? (fun c => c == '.') significand
    if power?.isNone ∧ places?.isNone then none
    else
      let whole ← plainDigits? whole
      let places ←
        match places? with
        | some places => digitsOf? 10 places
        | none => some []
      let power ←
        match power? with
        | some power => exponent? power
        | none => some 0
      let number ← numeral? 10 (whole ++ places)
      match Double.ofDecimal negative number (power - places.length) with
      | .infinite false => none
      | double => some double

end StrategyDesk.Toml
