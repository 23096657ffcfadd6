import StrategyDesk.Configuration.Setting
import StrategyDesk.Number.Power
import StrategyDesk.Text.Basic

/-!
# Paths to settings

A path leads from the outermost table to a setting: `editor.styled_lines[0]`. Writing at a path
makes the tables and lists on the way, in place of what is there if need be.
-/

set_option autoImplicit false

namespace StrategyDesk

/-- One step of a path. A negative index counts from the end of the list. -/
inductive PathStep where
  | entry (name : String)
  | item (index : Int)
deriving DecidableEq, Repr

/-- A path: the name in the outermost table, and the steps from there. -/
structure KeyPath where
  name : String
  steps : List PathStep
deriving DecidableEq, Repr

namespace KeyPath

def isNameChar (c : Char) : Bool := c.isAlphanum || c == ' ' || c == '_' || c == '-'

def name? (text : Text) : Option (String × Text) :=
  match text.takeWhile isNameChar with
  | [] => none
  | name => some (String.ofList name, text.dropWhile isNameChar)

def index? (text : Text) : Option (Int × Text) :=
  let (negative, unsigned) :=
    match text.dropWhile Text.isGap with
    | '-' :: rest => (true, rest)
    | rest => (false, rest)
  match unsigned.takeWhile Char.isDigit with
  | [] => none
  | digits =>
      let magnitude : Int := Nat.ofDigitChars 10 digits 0
      let index := if negative then -magnitude else magnitude
      if isSigned64 index then
        some (index, (unsigned.dropWhile Char.isDigit).dropWhile Text.isGap)
      else none

/-- Reads steps up to the end of the text. Each takes at least one character, so `fuel` need not
exceed the length of the text. -/
def steps? : Nat → Text → Option (List PathStep)
  | _, [] => some []
  | fuel + 1, '.' :: rest => do
      let (name, after) ← name? rest
      pure (.entry name :: (← steps? fuel after))
  | fuel + 1, '[' :: rest => do
      let (index, ']' :: after) ← index? rest | none
      pure (.item index :: (← steps? fuel after))
  | _, _ => none

/-- The path that a text stands for. A text that has not the form of one is a plain name. -/
def ofText (text : String) : KeyPath :=
  let read? : Option KeyPath := do
    let (name, rest) ← name? text.toList
    pure ⟨name, ← steps? rest.length rest⟩
  read?.getD ⟨text, []⟩

/-- The items of a setting, if it is a list, and otherwise none in its place. -/
def itemsOf : Setting → Option String × List Setting
  | .list source items => (source, items)
  | _ => (none, [])

def place? (index : Int) (length : Nat) : Option Nat :=
  if 0 ≤ index then some index.toNat
  else if -index ≤ length then some (length - (-index).toNat)
  else none

def changeItem (index : Int) (change : Setting → Setting) (target : Setting) : Setting :=
  let (source, items) := itemsOf target
  match place? index items.length with
  | none => .list source items
  | some place =>
      let filled := items ++ List.replicate (place + 1 - items.length) Setting.nothing
      .list source (filled.modify place change)

def writeSteps (value : Setting) : List PathStep → Setting → Setting
  | [], _ => value
  | [.entry name], target => value.assign name target.asTable
  | .entry name :: rest, target =>
      let table := target.asTable
      table.put name (writeSteps value rest ((table.find? name).getD .nothing))
  | .item index :: rest, target => changeItem index (writeSteps value rest) target

def write (path : KeyPath) (value root : Setting) : Setting :=
  match path.steps with
  | [] => value.assign path.name root
  | steps => root.put path.name (writeSteps value steps ((root.find? path.name).getD .nothing))

end KeyPath

end StrategyDesk
