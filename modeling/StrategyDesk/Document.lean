import StrategyDesk.Text.Basic
import StrategyDesk.Failure

/-!
# Documents

A document is a text with numbered lines. Positions count characters from the start of the
document; lines are numbered from 1 and end before their line feed. An edit replaces the characters
between two positions, and is refused when these do not delimit a part of the document.
-/

set_option autoImplicit false

namespace StrategyDesk

/-- One line of a document: its number, and the positions where it starts and stops. -/
structure Line where
  number : Nat
  start : Nat
  stop : Nat
deriving DecidableEq, Repr

namespace Line

def length (line : Line) : Nat := line.stop - line.start

def isEmpty (line : Line) : Bool := line.start == line.stop

end Line

/-- The replacement of the characters between two positions. -/
structure Change where
  start : Nat
  stop : Nat
  insert : Text
deriving DecidableEq, Repr

structure Document where
  text : Text
deriving DecidableEq, Repr

namespace Document

def length (doc : Document) : Nat := doc.text.length

def isEmpty (doc : Document) : Bool := doc.text.isEmpty

/-- Numbers the given line texts from `number`, laying them out from position `start` with one line
feed between neighbours. -/
def layLines (number start : Nat) : List Text → List Line
  | [] => []
  | text :: rest =>
      ⟨number, start, start + text.length⟩ ::
        layLines (number + 1) (start + text.length + 1) rest

/-- The lines of the document, in order. There is always at least one. -/
def lines (doc : Document) : List Line := layLines 1 0 doc.text.lines

def lineCount (doc : Document) : Nat := doc.lines.length

def line? (doc : Document) : Nat → Option Line
  | 0 => none
  | number + 1 => doc.lines[number]?

/-- The line that holds the position: the last one that starts at or before it. Positions past the
end belong to the last line. -/
def lineAt (doc : Document) (position : Nat) : Line :=
  ((doc.lines.filter fun line => line.start ≤ min position doc.length).getLast?).getD
    ⟨1, 0, doc.length⟩

def lineText? (doc : Document) (number : Nat) : Option Text :=
  (doc.line? number).map fun line => doc.text.slice line.start line.stop

def replace (doc : Document) (start stop : Nat) (insert : Text) : Except Failure Document :=
  if start > stop ∨ stop > doc.length then
    .error (.invalidRange start stop doc.length)
  else
    .ok ⟨doc.text.take start ++ insert ++ doc.text.drop stop⟩

def apply (doc : Document) (change : Change) : Except Failure Document :=
  doc.replace change.start change.stop change.insert

end Document

namespace Change

def insertion (position : Nat) (text : Text) : Change := ⟨position, position, text⟩

def deletion (start stop : Nat) : Change := ⟨start, stop, []⟩

def replaceAll (doc : Document) (text : Text) : Change := ⟨0, doc.length, text⟩

end Change

end StrategyDesk
