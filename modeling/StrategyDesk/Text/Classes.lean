import StrategyDesk.Text.Alphabetic
import StrategyDesk.Text.Numeric

/-!
# Classes of characters

The classes that the analysis of strategy texts asks about: blanks, letters and digits of every
script, the characters that continue a word, and the characters of names and identifiers.
-/

set_option autoImplicit false

namespace StrategyDesk.Text

/-- Whether a code point lies in one of the ranges, which ascend: the search ends at the first
range that starts above it. -/
def covers : List (Nat × Nat) → Nat → Bool
  | [], _ => false
  | (low, high) :: rest, n => if n < low then false else n ≤ high || covers rest n

def blankRanges : List (Nat × Nat) :=
  [(0x9, 0xD), (0x20, 0x20), (0x85, 0x85), (0xA0, 0xA0), (0x1680, 0x1680), (0x2000, 0x200A),
   (0x2028, 0x2029), (0x202F, 0x202F), (0x205F, 0x205F), (0x3000, 0x3000)]

def isBlank (c : Char) : Bool := covers blankRanges c.toNat

/-- A blank that stays on its line and is typed as such: a space or a tabulator. -/
def isGap (c : Char) : Bool := c == ' ' || c == '\t'

def isAlphanumeric (c : Char) : Bool :=
  covers alphabeticRanges c.toNat || covers decimalRanges c.toNat ||
    covers otherNumberRanges c.toNat

/-- A character over which a word goes on: letters, marks, decimal digits, connectors, joiners. -/
def isWordChar (c : Char) : Bool :=
  covers alphabeticRanges c.toNat || covers decimalRanges c.toNat || covers wordMarkRanges c.toNat

/-- A character that may start a name: an ASCII letter, `_` or `$`. -/
def isNameStart (c : Char) : Bool := c.isAlpha || c == '_' || c == '$'

/-- A character that may continue a name: a word character or `$`. -/
def isNameChar (c : Char) : Bool := isWordChar c || c == '$'

/-- A character of the words that hovering and enum bodies are made of: a letter or number of any
script, `_` or `$`. -/
def isIdentifierChar (c : Char) : Bool := isAlphanumeric c || c == '_' || c == '$'

end StrategyDesk.Text
