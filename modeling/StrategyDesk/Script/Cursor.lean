import StrategyDesk.Text.Basic

/-!
# Reading at a place of a text

A cursor is a place in a text: its position and what follows it. The small readers below move a
cursor forward over one expected thing, or fail. A form that a text may hold in many places, such as
an import statement, is a reader, and `occurrences` finds the places where it applies, from left to
right and without overlaps.
-/

set_option autoImplicit false

namespace StrategyDesk.Script

structure Span where
  start : Nat
  text : Text
deriving DecidableEq, Repr

namespace Span

def stop (span : Span) : Nat := span.start + span.text.length

end Span

/-- A position in a text, and the text from there on. -/
structure Cursor where
  position : Nat
  rest : Text
deriving DecidableEq, Repr

namespace Cursor

def word? (word : Text) (cursor : Cursor) : Option Cursor :=
  (word.isPrefixOf? cursor.rest).map fun rest => ⟨cursor.position + word.length, rest⟩

def one? (p : Char → Bool) (cursor : Cursor) : Option Cursor :=
  match cursor.rest with
  | c :: rest => if p c then some ⟨cursor.position + 1, rest⟩ else none
  | [] => none

/-- Moves over the longest run of characters of the class, which is returned. -/
def run (p : Char → Bool) (cursor : Cursor) : Span × Cursor :=
  let taken := cursor.rest.takeWhile p
  (⟨cursor.position, taken⟩, ⟨cursor.position + taken.length, cursor.rest.dropWhile p⟩)

def run? (p : Char → Bool) (cursor : Cursor) : Option (Span × Cursor) :=
  let (span, after) := cursor.run p
  if span.text = [] then none else some (span, after)

def blanks (cursor : Cursor) : Cursor := (cursor.run Text.isBlank).2

def blanks? (cursor : Cursor) : Option Cursor := (cursor.run? Text.isBlank).map Prod.snd

def gap (cursor : Cursor) : Cursor := (cursor.run Text.isGap).2

def name? (cursor : Cursor) : Option (Span × Cursor) :=
  match cursor.rest with
  | c :: _ => if Text.isNameStart c then some (cursor.run Text.isNameChar) else none
  | [] => none

end Cursor

/-- What the reader yields at the places of the text where it applies, from left to right. A place
counts only if the character before it admits it, and the search goes on after what was read: `skip`
characters at the front of the text are still part of that. -/
def occurrencesFrom {α : Type} (admits : Option Char → Bool)
    (read? : Cursor → Option (α × Cursor)) : Nat → Nat → Option Char → Text → List α
  | _, _, _, [] => []
  | skip + 1, position, _, c :: rest =>
      occurrencesFrom admits read? skip (position + 1) (some c) rest
  | 0, position, before, c :: rest =>
      match if admits before then read? ⟨position, c :: rest⟩ else none with
      | some (found, after) =>
          found ::
            occurrencesFrom admits read? (after.position - position - 1) (position + 1) (some c)
              rest
      | none => occurrencesFrom admits read? 0 (position + 1) (some c) rest

/-- What the reader yields in the text, from left to right and without overlaps. -/
def occurrences {α : Type} (admits : Option Char → Bool) (read? : Cursor → Option (α × Cursor))
    (text : Text) : List α :=
  occurrencesFrom admits read? 0 0 none text

def anywhere : Option Char → Bool := fun _ => true

def wordStart : Option Char → Bool
  | none => true
  | some c => !Text.isWordChar c

def lineStart : Option Char → Bool
  | none => true
  | some c => c == '\n'

end StrategyDesk.Script
