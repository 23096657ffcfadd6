import StrategyDesk.Text.Basic

/-!
# Bytes and percent signs

Texts as bytes in UTF-8 and back, and the percent encoding of the characters that addresses do not
hold as they are.
-/

set_option autoImplicit false

namespace StrategyDesk.Web

def utf8 (text : Text) : List Nat :=
  text.flatMap fun c => (String.utf8EncodeChar c).map UInt8.toNat

/-- How many bytes follow a first byte, and between which bounds the next one lies. Other bytes than
these begin no character. -/
def sequenceShape? (first : Nat) : Option (Nat × Nat × Nat) :=
  if first < 0x80 then some (0, 0, 0)
  else if 0xC2 ≤ first ∧ first < 0xE0 then some (1, 0x80, 0xBF)
  else if first = 0xE0 then some (2, 0xA0, 0xBF)
  else if first = 0xED then some (2, 0x80, 0x9F)
  else if 0xE1 ≤ first ∧ first < 0xF0 then some (2, 0x80, 0xBF)
  else if first = 0xF0 then some (3, 0x90, 0xBF)
  else if first = 0xF4 then some (3, 0x80, 0x8F)
  else if 0xF1 ≤ first ∧ first < 0xF4 then some (3, 0x80, 0xBF)
  else none

def leadingBits (first : Nat) : Nat :=
  if first < 0x80 then first
  else if first < 0xE0 then first % 32
  else if first < 0xF0 then first % 16
  else first % 8

/-- A character that is being read: its bits so far, how many bytes are missing, and the bounds of
the next one. -/
structure Partway where
  bits : Nat
  missing : Nat
  low : Nat
  high : Nat
deriving DecidableEq, Repr

/-- Begins a character with a byte: what is complete by then, and what is still open. A byte that
begins no character counts as a fault. -/
def begin (byte : Nat) : List (Option Char) × Option Partway :=
  match sequenceShape? byte with
  | none => ([none], none)
  | some (0, _, _) => ([some (Char.ofNat byte)], none)
  | some (missing, low, high) => ([], some ⟨leadingBits byte, missing, low, high⟩)

/-- The characters of bytes in UTF-8. Where a character is broken off there is a fault in its place,
and the byte that does not belong to it begins the next one. -/
def decode : Option Partway → List Nat → List (Option Char)
  | none, [] => []
  | some _, [] => [none]
  | none, byte :: rest => (begin byte).1 ++ decode (begin byte).2 rest
  | some ⟨bits, missing, low, high⟩, byte :: rest =>
      if low ≤ byte ∧ byte ≤ high then
        let bits := bits * 64 + byte % 64
        if missing ≤ 1 then some (Char.ofNat bits) :: decode none rest
        else decode (some ⟨bits, missing - 1, 0x80, 0xBF⟩) rest
      else none :: ((begin byte).1 ++ decode (begin byte).2 rest)

def utf8Text? (bytes : List Nat) : Option Text := (decode none bytes).mapM id

/-- The text that bytes stand for, with a replacement character for each fault, and without a mark
of the byte order at the front. -/
def lossyText (bytes : List Nat) : Text :=
  let text := (decode none bytes).map fun c? => c?.getD '\uFFFD'
  if text.head? = some '\uFEFF' then text.drop 1 else text

def hexDigit (value : Nat) : Char := (Nat.digitChar value).toUpper

def escapeByte (byte : Nat) : Text := ['%', hexDigit (byte / 16), hexDigit (byte % 16)]

/-- The characters that every part of an address escapes: controls and what is not ASCII. -/
def isControl (c : Char) : Bool := c.toNat < 0x20 || 0x7F ≤ c.toNat

def escape (special : Char → Bool) (text : Text) : Text :=
  text.flatMap fun c => if special c then (utf8 [c]).flatMap escapeByte else [c]

def hexDigitValue? (c : Char) : Option Nat :=
  if c.isDigit then some (c.toNat - '0'.toNat)
  else if 'a' ≤ c ∧ c ≤ 'f' then some (c.toNat - 'a'.toNat + 10)
  else if 'A' ≤ c ∧ c ≤ 'F' then some (c.toNat - 'A'.toNat + 10)
  else none

/-- The bytes that a text with escapes stands for. A percent sign without two digits stands for
itself. -/
def unescape : Text → List Nat
  | '%' :: a :: b :: rest =>
      match hexDigitValue? a, hexDigitValue? b with
      | some high, some low => (high * 16 + low) :: unescape rest
      | _, _ => '%'.toNat :: unescape (a :: b :: rest)
  | c :: rest => utf8 [c] ++ unescape rest
  | [] => []

end StrategyDesk.Web
