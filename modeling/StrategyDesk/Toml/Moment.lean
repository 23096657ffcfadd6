import StrategyDesk.Toml.Lexical

/-!
# Dates and times

Dates, times and their combinations as TOML writes them, and the one form they are written in again:
with a capital `T` between date and time, at most nine digits of a second and no zeros at its end.
-/

set_option autoImplicit false

namespace StrategyDesk.Toml

def fixed? (count : Nat) (text : Text) : Option (Nat × Text) := do
  let digits := text.take count
  if digits.length = count ∧ digits.all Char.isDigit then
    pure (← numeral? 10 digits, text.drop count)
  else none

def pair? (bound : Nat) (text : Text) : Option (Nat × Text) := do
  let (number, rest) ← fixed? 2 text
  if number ≤ bound then some (number, rest) else none

def monthDays (year month : Nat) : Nat :=
  if month = 2 then
    if year % 4 = 0 ∧ (year % 100 ≠ 0 ∨ year % 400 = 0) then 29 else 28
  else if month = 4 ∨ month = 6 ∨ month = 9 ∨ month = 11 then 30
  else 31

def twoDigits (number : Nat) : Text :=
  let digits := Nat.toDigits 10 number
  if digits.length = 1 then '0' :: digits else digits

def date? (text : Text) : Option (Text × Text) := do
  let (year, '-' :: rest) ← fixed? 4 text | none
  let (month, '-' :: rest) ← pair? 12 rest | none
  let (day, rest) ← fixed? 2 rest
  if 1 ≤ month ∧ 1 ≤ day ∧ day ≤ monthDays year month then
    pure (text.take 4 ++ '-' :: twoDigits month ++ '-' :: twoDigits day, rest)
  else none

def fractionText (digits : Text) : Text :=
  match ((digits.take 9).reverse.dropWhile fun c => c == '0').reverse with
  | [] => []
  | kept => '.' :: kept

def time? (text : Text) : Option (Text × Text) := do
  let (hour, ':' :: rest) ← pair? 23 text | none
  let (minute, ':' :: rest) ← pair? 59 rest | none
  let (second, rest) ← pair? 60 rest
  let whole := twoDigits hour ++ ':' :: twoDigits minute ++ ':' :: twoDigits second
  match rest with
  | '.' :: more =>
      match more.takeWhile Char.isDigit with
      | [] => none
      | digits => pure (whole ++ fractionText digits, more.dropWhile Char.isDigit)
  | _ => pure (whole, rest)

/-- Reads the distance from universal time up to the end of the text, and writes it again. -/
def offset? : Text → Option Text
  | [] => some []
  | ['Z'] | ['z'] => some ['Z']
  | sign :: rest => do
      if sign = '+' ∨ sign = '-' then
        let (hour, ':' :: rest) ← pair? 23 rest | none
        let (minute, []) ← pair? 59 rest | none
        let shown := if hour = 0 ∧ minute = 0 then '+' else sign
        pure (shown :: twoDigits hour ++ ':' :: twoDigits minute)
      else none

/-- Reads a time with or without an offset, up to the end of the text, and writes it again. -/
def zonedTime? (text : Text) : Option Text := do
  let (time, rest) ← time? text
  pure (time ++ (← offset? rest))

/-- Reads a date, a time, or both with a letter between them, up to the end of the text, and writes
it again. -/
def moment? (text : Text) : Option Text :=
  match date? text with
  | some (date, []) => some date
  | some (date, separator :: rest) =>
      if separator = 'T' ∨ separator = 't' then
        (zonedTime? rest).map fun time => date ++ 'T' :: time
      else none
  | none =>
      match time? text with
      | some (time, []) => some time
      | _ => none

def isDate (text : Text) : Bool :=
  match date? text with
  | some (_, []) => true
  | _ => false

end StrategyDesk.Toml
