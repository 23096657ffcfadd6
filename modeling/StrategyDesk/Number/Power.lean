/-!
# Powers and widths

Powers of natural numbers, and the numbers of values that words of some width have.
-/

set_option autoImplicit false

namespace StrategyDesk

/-- A natural number, multiplied with itself. -/
def power (base exponent : Nat) : Nat := Nat.pow base exponent

/-- The number of values of a word of the given width in bits. -/
def wordValues (width : Nat) : Nat := power 2 width

/-- The sum of two words of 64 bits. There is none if it exceeds them: there the program dies. -/
def addWords? (a b : Nat) : Option Nat := if a + b < wordValues 64 then some (a + b) else none

/-- Whether a number is one that a signed word of 64 bits holds. -/
def isSigned64 (number : Int) : Bool :=
  -(wordValues 63 : Int) ≤ number && number < (wordValues 63 : Int)

end StrategyDesk
