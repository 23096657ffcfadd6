import StrategyDesk.Number.Power
import StrategyDesk.Text.Basic

/-!
# JSON values

The values that JSON texts stand for. The members of an object keep their order and their
repetitions, because whether a repeated name matters is for the reader of the object to say.
-/

set_option autoImplicit false

namespace StrategyDesk

inductive Json where
  | null
  | bool (value : Bool)
  /-- A number written without fraction and exponent. -/
  | integer (value : Int)
  /-- A number written with a fraction or an exponent, or a negative zero: the significand times a
  power of ten. -/
  | decimal (significand exponent : Int)
  | string (text : String)
  | array (items : List Json)
  | object (members : List (String × Json))
  /-- What has the form of a value but stands for none: a string with half a surrogate pair or with
  bytes that are not in UTF-8, or a number beyond the range of doubles. -/
  | unrepresentable
deriving Repr, Inhabited

namespace Json

/-- The value of the member with the given name, if exactly one member has it. -/
def member? (name : String) (members : List (String × Json)) : Option Json :=
  match members.filter fun member => member.1 == name with
  | [(_, value)] => some value
  | _ => none

/-- The values of a record with the given field names, in this order. A record is an object in which
each of the names stands exactly once, other names being ignored, or an array of just the values. -/
def fields? (names : List String) : Json → Option (List Json)
  | .object members => names.mapM fun name => member? name members
  | .array items => if items.length = names.length then some items else none
  | _ => none

/-- An integer from `low` up to but excluding `high`. -/
def integer? (low high : Int) : Json → Option Int
  | .integer value => if low ≤ value ∧ value < high then some value else none
  | _ => none

/-- A natural number of the given width in bits. -/
def natural? (width : Nat) (value : Json) : Option Nat :=
  (value.integer? 0 (wordValues width)).map Int.toNat

def string? : Json → Option String
  | .string text => some text
  | _ => none

def array? : Json → Option (List Json)
  | .array items => some items
  | _ => none

/-- The name of a case without content: written as a string, or as an object that maps the name to
nothing. -/
def caseName? : Json → Option String
  | .string name => some name
  | .object [(name, .null)] => some name
  | _ => none

/-- The values that nest at most `depth` arrays and objects, and in which nothing is
unrepresentable. -/
def isSound : Nat → Json → Bool
  | _, .unrepresentable => false
  | 0, .array _ => false
  | 0, .object _ => false
  | depth + 1, .array items => items.all fun item => item.isSound depth
  | depth + 1, .object members => members.all fun member => member.2.isSound depth
  | _, _ => true

end Json

end StrategyDesk
