import StrategyDesk.Configuration.Setting
import StrategyDesk.Number.Power
import StrategyDesk.Text.Quoting

/-!
# Reading settings

How settings become values of the types that the program works with. Scalars are converted where
that makes sense: numbers and flags to texts, texts to numbers and flags. What does not fit is
reported with the key it stands under and the source it comes from.
-/

set_option autoImplicit false

namespace StrategyDesk

inductive Misfit where
  | unconvertible (found expected key : String) (source : Option String)
  | plain (reason : String)
deriving DecidableEq, Repr

namespace Misfit

def message : Misfit → String
  | unconvertible found expected key source =>
      let place := if key = "" then "" else s!" for key \x60{key}\x60"
      let origin := (source.map fun name => s!" in {name}").getD ""
      s!"invalid type: {found}, expected {expected}{place}{origin}"
  | plain reason => reason

def underName (name : String) : Misfit → Misfit
  | unconvertible found expected key source =>
      let separator := if key = "" ∨ key.startsWith "[" then "" else "."
      unconvertible found expected (name ++ separator ++ key) source
  | misfit => misfit

def underIndex (index : Nat) : Misfit → Misfit
  | unconvertible found expected key source =>
      unconvertible found expected (s!"[{index}]" ++ key) source
  | misfit => misfit

end Misfit

namespace Scalar

def describe : Scalar → String
  | nothing => "unit value"
  | flag value => s!"boolean \x60{value}\x60"
  | integer value => s!"64-bit integer \x60{value}\x60"
  | decimal value => s!"floating point \x60{value.toText}\x60"
  | text value => s!"string {Text.quote value}"

def describePlainly : Scalar → String
  | integer value => s!"integer \x60{value}\x60"
  | decimal value => s!"floating point \x60{value.toPointedText}\x60"
  | scalar => scalar.describe

end Scalar

namespace Setting

def unconvertible (expected : String) : Setting → Misfit
  | scalar source value => .unconvertible value.describe expected "" source
  | list source _ => .unconvertible "sequence" expected "" source
  | table source _ => .unconvertible "map" expected "" source

def misplaced (expected : String) : Setting → Misfit
  | scalar _ value => .plain s!"invalid type: {value.describePlainly}, expected {expected}"
  | list _ _ => .plain s!"invalid type: sequence, expected {expected}"
  | table _ _ => .plain s!"invalid type: map, expected {expected}"

def toText (setting : Setting) : Except Misfit String :=
  match setting with
  | scalar _ (.text value) => .ok value
  | scalar _ (.flag value) => .ok (toString value)
  | scalar _ (.integer value) => .ok (toString value)
  | scalar _ (.decimal value) => .ok value.toText
  | _ => .error (setting.unconvertible "a string")

/-- The number that a text stands for, if it has at most 64 bits: decimal digits, after a plus sign
or not. -/
def numeral? (text : String) : Option Nat :=
  let digits :=
    match text.toList with
    | '+' :: rest => rest
    | whole => whole
  let number := Nat.ofDigitChars 10 digits 0
  if digits ≠ [] ∧ digits.all Char.isDigit ∧ number < wordValues 64 then some number else none

def toNatural (setting : Setting) : Except Misfit Nat :=
  match setting with
  | scalar _ (.integer value) =>
      if 0 ≤ value then .ok value.toNat
      else .error (setting.unconvertible "an unsigned 64 bit or less integer")
  | scalar _ (.flag value) => .ok value.toNat
  | scalar _ (.decimal value) => .ok (value.toNatural (wordValues 64))
  | scalar _ (.text value) =>
      let word := folded value
      if word = "true" ∨ word = "on" ∨ word = "yes" then .ok 1
      else if word = "false" ∨ word = "off" ∨ word = "no" then .ok 0
      else
        match numeral? value with
        | some number => .ok number
        | none => .error (setting.unconvertible "an integer")
  | _ => .error (setting.unconvertible "an integer")

/-- A setting as a flag. A text that is none is reported in small letters. -/
def toFlag (setting : Setting) : Except Misfit Bool :=
  match setting with
  | scalar _ (.flag value) => .ok value
  | scalar _ (.integer value) => .ok (value != 0)
  | scalar _ (.decimal value) => .ok (!value.isZero)
  | scalar source (.text value) =>
      let word := folded value
      if word = "1" ∨ word = "true" ∨ word = "on" ∨ word = "yes" then .ok true
      else if word = "0" ∨ word = "false" ∨ word = "off" ∨ word = "no" then .ok false
      else .error ((scalar source (.text word)).unconvertible "a boolean")
  | _ => .error (setting.unconvertible "a boolean")

def readItems {α : Type} (read : Setting → Except Misfit α) :
    Nat → List Setting → Except Misfit (List α)
  | _, [] => .ok []
  | index, item :: rest => do
      let value ← (read item).mapError (Misfit.underIndex index)
      pure (value :: (← readItems read (index + 1) rest))

def toList {α : Type} (read : Setting → Except Misfit α) (setting : Setting) :
    Except Misfit (List α) :=
  match setting with
  | list _ items => readItems read 0 items
  | _ => .error (setting.misplaced "a sequence")

/-- A record as it was written: the settings of its fields, and how a missing one is reported. -/
structure Record where
  find? : String → Option Setting
  locate : String → Misfit → Misfit
  missing : String → Misfit

def positionOf (name : String) (names : List String) : Nat := names.idxOf name

/-- A setting as a record with the given fields: a table, in which other names are ignored, or a
list that begins with the fields in order. -/
def toRecord (title : String) (names : List String) (setting : Setting) : Except Misfit Record :=
  match setting with
  | table _ entries =>
      .ok ⟨fun name => entries.lookup name, Misfit.underName,
        fun name => .plain s!"missing field \x60{name}\x60"⟩
  | list _ items =>
      let elements := if names.length = 1 then "1 element" else s!"{names.length} elements"
      .ok ⟨fun name => items[positionOf name names]?,
        fun name misfit => misfit.underIndex (positionOf name names),
        fun _ => .plain
          s!"invalid length {items.length}, expected struct {title} with {elements}"⟩
  | _ => .error (setting.misplaced s!"struct {title}")

namespace Record

def field? {α : Type} (record : Record) (read : Setting → Except Misfit α) (name : String) :
    Except Misfit (Option α) :=
  match record.find? name with
  | none => .ok none
  | some setting => ((read setting).map some).mapError (record.locate name)

def require {α : Type} (record : Record) (name : String) : Option α → Except Misfit α
  | some value => .ok value
  | none => .error (record.missing name)

end Record

end Setting

end StrategyDesk
