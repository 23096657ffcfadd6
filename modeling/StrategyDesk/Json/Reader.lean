import StrategyDesk.Json.Value
import StrategyDesk.Web.Percent

/-!
# Reading JSON

A strict reader: no control characters in strings, no leading zeros, no trailing commas, nothing
but blanks after the value. It reads texts, and also bytes, which need to be in UTF-8 only in the
strings whose value is asked for.
-/

set_option autoImplicit false

namespace StrategyDesk.Json

def isJsonBlank (c : Char) : Bool := c == ' ' || c == '\n' || c == '\t' || c == '\r'

def skipBlanks (text : Text) : Text := text.dropWhile isJsonBlank

def hexValue? (c : Char) : Option Nat :=
  if '0' ≤ c ∧ c ≤ '9' then some (c.toNat - '0'.toNat)
  else if 'a' ≤ c ∧ c ≤ 'f' then some (c.toNat - 'a'.toNat + 10)
  else if 'A' ≤ c ∧ c ≤ 'F' then some (c.toNat - 'A'.toNat + 10)
  else none

/-- One written unit of a string: a character, or a 16-bit code given by its number. -/
inductive StringUnit where
  | char (c : Char)
  | code (number : Nat)
deriving DecidableEq, Repr

/-- The character that an escape of one letter stands for. -/
def shortEscape? : Char → Option Char
  | '"' => some '"'
  | '\\' => some '\\'
  | '/' => some '/'
  | 'b' => some '\x08'
  | 'f' => some '\x0c'
  | 'n' => some '\n'
  | 'r' => some '\r'
  | 't' => some '\t'
  | _ => none

/-- The units of a string after its opening quote, up to the closing one, and what follows that. -/
def stringUnits? : Text → Option (List StringUnit × Text)
  | [] => none
  | '"' :: rest => some ([], rest)
  | '\\' :: 'u' :: a :: b :: c :: d :: rest => do
      let code := ((← hexValue? a) * 16 + (← hexValue? b)) * 256 + (← hexValue? c) * 16 +
        (← hexValue? d)
      let (units, after) ← stringUnits? rest
      pure (.code code :: units, after)
  | '\\' :: letter :: rest => do
      let c ← shortEscape? letter
      let (units, after) ← stringUnits? rest
      pure (.char c :: units, after)
  | c :: rest =>
      if c.toNat < 32 ∨ c = '\\' then none
      else (stringUnits? rest).map fun (units, after) => (.char c :: units, after)

/-- What the units come to, given what a character comes to that is written plainly or by one letter,
and one that is written by codes. Two codes may form a surrogate pair, and half a pair is no
character. -/
def unitsAs? {α : Type} (plain coded : Char → List α) : List StringUnit → Option (List α)
  | [] => some []
  | .char c :: rest => (unitsAs? plain coded rest).map (plain c ++ ·)
  | .code high :: .code low :: rest =>
      if 0xD800 ≤ high ∧ high < 0xDC00 then
        if 0xDC00 ≤ low ∧ low < 0xE000 then
          (unitsAs? plain coded rest).map
            (coded (Char.ofNat (0x10000 + (high - 0xD800) * 0x400 + (low - 0xDC00))) ++ ·)
        else none
      else if 0xDC00 ≤ high ∧ high < 0xE000 then none
      else (unitsAs? plain coded (.code low :: rest)).map (coded (Char.ofNat high) ++ ·)
  | .code code :: rest =>
      if 0xD800 ≤ code ∧ code < 0xE000 then none
      else (unitsAs? plain coded rest).map (coded (Char.ofNat code) ++ ·)

def unitsText? (units : List StringUnit) : Option Text := unitsAs? ([·]) ([·]) units

/-- The text of the units of a string in bytes, each of which was read as a character. -/
def bytesText? (units : List StringUnit) : Option Text :=
  unitsAs? (fun c => [c.toNat]) (fun c => Web.utf8 [c]) units >>= Web.utf8Text?

def ofUnits (text? : List StringUnit → Option Text) (units : List StringUnit) : Json :=
  match text? units with
  | some text => .string (String.ofList text)
  | none => .unrepresentable

/-- The value of an object given by its members. A member whose name is no text spoils it. -/
def ofMembers (members : List (Option Text × Json)) : Json :=
  match members.mapM fun (name, value) => name.map fun text => (String.ofList text, value) with
  | some members => .object members
  | none => .unrepresentable

/-- Half a unit in the last place above the largest double: what is as large is no double. -/
def doubleBound : Nat := power 2 1024 - power 2 970

def ofInteger (negative : Bool) (magnitude : Nat) : Json :=
  if magnitude ≥ doubleBound then .unrepresentable
  else if negative then (if magnitude = 0 then .decimal 0 0 else .integer (-magnitude))
  else .integer magnitude

def ofDecimal (negative : Bool) (significand : Nat) (exponent : Int) : Json :=
  let digits := (Nat.toDigits 10 significand).length
  let tooLarge : Bool :=
    significand ≠ 0 ∧ exponent + digits > 308 ∧
      (exponent + digits > 309 ∨
        significand * power 10 exponent.toNat ≥ doubleBound * power 10 (-exponent).toNat)
  if tooLarge then .unrepresentable
  else .decimal (if negative then -significand else significand) exponent

/-- Reads the digits at the front of the text, of which there must be one. -/
def digits? (text : Text) : Option (Text × Text) :=
  match text.takeWhile Char.isDigit with
  | [] => none
  | digits => some (digits, text.dropWhile Char.isDigit)

def fraction? : Text → Option (Option Text × Text)
  | '.' :: rest => (digits? rest).map fun (digits, after) => (some digits, after)
  | text => some (none, text)

def exponent? : Text → Option (Option Int × Text)
  | text =>
      match text with
      | [] => some (none, [])
      | c :: rest =>
          if c = 'e' ∨ c = 'E' then
            let (negative, unsigned) :=
              match rest with
              | '-' :: more => (true, more)
              | '+' :: more => (false, more)
              | more => (false, more)
            (digits? unsigned).map fun (digits, after) =>
              let magnitude : Int := Nat.ofDigitChars 10 digits 0
              (some (if negative then -magnitude else magnitude), after)
          else some (none, c :: rest)

def unsigned? (negative : Bool) (text : Text) : Option (Json × Text) := do
  let (whole, rest) ← digits? text
  if whole.head? = some '0' ∧ whole.length ≠ 1 then none
  else
    let (fraction, rest) ← fraction? rest
    let (exponent, rest) ← exponent? rest
    if fraction.isNone ∧ exponent.isNone then
      pure (ofInteger negative (Nat.ofDigitChars 10 whole 0), rest)
    else
      let places := fraction.getD []
      pure (ofDecimal negative (Nat.ofDigitChars 10 (whole ++ places) 0)
        (exponent.getD 0 - places.length), rest)

def number? : Text → Option (Json × Text)
  | '-' :: rest => unsigned? true rest
  | text => unsigned? false text

mutual

/-- Reads one value, blanks before it included. Each step of the reader spends one unit of `fuel`,
and a text never needs more than two for each of its characters. -/
def value? (text? : List StringUnit → Option Text) : Nat → Text → Option (Json × Text)
  | 0, _ => none
  | fuel + 1, text =>
      match skipBlanks text with
      | 'n' :: 'u' :: 'l' :: 'l' :: rest => some (.null, rest)
      | 't' :: 'r' :: 'u' :: 'e' :: rest => some (.bool true, rest)
      | 'f' :: 'a' :: 'l' :: 's' :: 'e' :: rest => some (.bool false, rest)
      | '"' :: rest => (stringUnits? rest).map fun (units, after) => (ofUnits text? units, after)
      | '[' :: rest =>
          match skipBlanks rest with
          | ']' :: after => some (.array [], after)
          | _ => (items? text? fuel rest).map fun (items, after) => (.array items, after)
      | '\x7b' :: rest =>
          match skipBlanks rest with
          | '\x7d' :: after => some (.object [], after)
          | _ => (members? text? fuel rest).map fun (members, after) => (ofMembers members, after)
      | other => number? other

def items? (text? : List StringUnit → Option Text) : Nat → Text → Option (List Json × Text)
  | 0, _ => none
  | fuel + 1, text => do
      let (item, rest) ← value? text? fuel text
      match skipBlanks rest with
      | ',' :: more =>
          let (items, after) ← items? text? fuel more
          pure (item :: items, after)
      | ']' :: after => pure ([item], after)
      | _ => none

def members? (text? : List StringUnit → Option Text) :
    Nat → Text → Option (List (Option Text × Json) × Text)
  | 0, _ => none
  | fuel + 1, text => do
      let '"' :: rest := skipBlanks text | none
      let (units, rest) ← stringUnits? rest
      let ':' :: rest := skipBlanks rest | none
      let (value, rest) ← value? text? fuel rest
      let member := (text? units, value)
      match skipBlanks rest with
      | ',' :: more =>
          let (members, after) ← members? text? fuel more
          pure (member :: members, after)
      | '\x7d' :: after => pure ([member], after)
      | _ => none

end

def readWith? (text? : List StringUnit → Option Text) (text : Text) : Option Json := do
  let (value, rest) ← value? text? (2 * text.length + 2) text
  if skipBlanks rest = [] then some value else none

def read? (text : Text) : Option Json := readWith? unitsText? text

def readBytes? (bytes : List Nat) : Option Json := readWith? bytesText? (bytes.map Char.ofNat)

end StrategyDesk.Json
