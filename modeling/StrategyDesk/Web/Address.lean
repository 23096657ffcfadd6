import StrategyDesk.Number.Power
import StrategyDesk.Web.Percent

/-!
# Numeric addresses

The numeric addresses of hosts: four bytes, written in up to four numbers, or eight pieces of
sixteen bits, written in hexadecimal with one run of zeros left out.
-/

set_option autoImplicit false

namespace StrategyDesk.Web

/-- The number that digits of a base stand for. -/
def numeral? (base : Nat) (digits : Text) : Option Nat :=
  digits.foldlM (fun number c => do
    let digit ← hexDigitValue? c
    if digit < base then some (number * base + digit) else none) 0

/-- A part of an address of four bytes: decimal, octal after a zero, or hexadecimal after `0x`. -/
def ipv4Part? (text : Text) : Option Nat :=
  match text with
  | [] => none
  | ['0'] => some 0
  | '0' :: 'x' :: digits | '0' :: 'X' :: digits => numeral? 16 digits
  | '0' :: digits => numeral? 8 digits
  | digits => numeral? 10 digits

def dottedParts (domain : Text) : List Text :=
  let parts := domain.splitOn '.'
  if 1 < parts.length ∧ parts.getLast? = some [] then parts.dropLast else parts

/-- Whether the last part of a name is a number, so that the name must be an address. -/
def endsInNumber (domain : Text) : Bool :=
  match (dottedParts domain).getLast? with
  | none => false
  | some last => (!last.isEmpty && last.all Char.isDigit) || (ipv4Part? last).isSome

/-- The address of four bytes that a name stands for. The last part fills all bytes that remain. -/
def ipv4? (domain : Text) : Option Nat := do
  let numbers ← (dottedParts domain).mapM ipv4Part?
  let last ← numbers.getLast?
  let bytes := numbers.dropLast
  if numbers.length ≤ 4 ∧ bytes.all (fun byte => byte < 256) ∧ last < power 256 (4 - bytes.length) then
    let place (byte : Nat) (scaled : Nat × Nat) : Nat × Nat :=
      (scaled.1 + byte * scaled.2, scaled.2 * 256)
    some (bytes.foldr place (last, power 256 (4 - bytes.length))).1
  else none

def ipv4Text (address : Nat) : Text :=
  let byte (place : Nat) : String := toString (address / power 256 place % 256)
  (String.intercalate "." [byte 3, byte 2, byte 1, byte 0]).toList

def embeddedPieces? (text : Text) : Option (List Nat) := do
  let bytes ← (text.splitOn '.').mapM fun digits =>
    if digits = [] ∨ (digits.head? = some '0' ∧ digits.length ≠ 1) then none
    else do
      let byte ← numeral? 10 digits
      if byte < 256 then some byte else none
  match bytes with
  | [a, b, c, d] => some [a * 256 + b, c * 256 + d]
  | _ => none

def piece? (text : Text) : Option Nat :=
  if text = [] ∨ 4 < text.length then none else numeral? 16 text

/-- The pieces between colons. The last one may be four decimal bytes. -/
def pieces? : List Text → Option (List Nat)
  | [] => some []
  | [last] => if last.contains '.' then embeddedPieces? last else (piece? last).map ([·])
  | text :: rest => do
      let piece ← piece? text
      pure (piece :: (← pieces? rest))

def piecesOf? (text : Text) : Option (List Nat) :=
  if text = [] then some [] else pieces? (text.splitOn ':')

/-- The address of eight pieces that a text stands for. A double colon stands for as many zeros
as are missing. -/
def ipv6? (text : Text) : Option (List Nat) :=
  match Text.cutAt? [':', ':'] text with
  | none => do
      let pieces ← piecesOf? text
      if pieces.length = 8 then some pieces else none
  | some (before, after) => do
      let front ← if before.contains '.' then none else piecesOf? before
      let back ← piecesOf? after
      if front.length + back.length ≤ 8 then
        some (front ++ List.replicate (8 - front.length - back.length) 0 ++ back)
      else none

def zeroRun (pieces : List Nat) : Nat := (pieces.takeWhile fun piece => piece == 0).length

/-- The start and the length of the first of the longest runs of zeros from a position on. -/
def longestRun : Nat → List Nat → Nat × Nat
  | position, [] => (position, 0)
  | position, piece :: rest =>
      let here := zeroRun (piece :: rest)
      let later := longestRun (position + 1) rest
      if here < later.2 then later else (position, here)

def colonText (pieces : List Nat) : Text :=
  (String.intercalate ":" (pieces.map fun piece => String.ofList (Nat.toDigits 16 piece))).toList

/-- An address of eight pieces, as it is written: the longest run of zeros is left out, unless it is
a single one. -/
def ipv6Text (pieces : List Nat) : Text :=
  let (start, length) := longestRun 0 pieces
  if length ≤ 1 then colonText pieces
  else colonText (pieces.take start) ++ "::".toList ++ colonText (pieces.drop (start + length))

end StrategyDesk.Web
