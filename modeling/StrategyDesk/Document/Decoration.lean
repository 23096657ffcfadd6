import StrategyDesk.Document.Buffer

/-!
# Styled lines

The lines of the header are shown on a background of their own. A view asks, for the ranges of
positions that are visible, which of the styled lines meet them. In a buffer the lines are looked up
one by one, by their numbers.
-/

set_option autoImplicit false

namespace StrategyDesk

/-- The styling of one line, anchored where the line starts. -/
structure Decoration where
  line : Nat
  position : Nat
deriving DecidableEq, Repr

def Decoration.arrange (found : List Decoration) : List Decoration :=
  (found.mergeSort fun a b => a.position ≤ b.position).eraseReps

namespace Document

/-- The target lines between the lines of the two positions, both included. -/
def decorationsIn (doc : Document) (targets : List Nat) (range : Nat × Nat) : List Decoration :=
  let first := (doc.lineAt range.1).number
  let last := (doc.lineAt range.2).number
  (doc.lines.filter fun line =>
      first ≤ line.number && line.number ≤ last && targets.contains line.number).map
    fun line => ⟨line.number, line.start⟩

def decorations (doc : Document) (visible : List (Nat × Nat)) (targets : List Nat) :
    List Decoration :=
  Decoration.arrange (visible.flatMap (doc.decorationsIn targets))

end Document

namespace Buffer

/-- The lines from the line of the first position to that of the second, as far as they are
targets. -/
def decorationsIn (buffer : Buffer) (targets : List Nat) (range : Nat × Nat) : List Decoration :=
  let first := (buffer.lineAt range.1).number
  let last := (buffer.lineAt range.2).number
  (List.range' first (last + 1 - first)).filterMap fun number =>
    if targets.contains number then
      (buffer.line? number).map fun line => ⟨number, line.start⟩
    else none

def decorations (buffer : Buffer) (visible : List (Nat × Nat)) (targets : List Nat) :
    List Decoration :=
  Decoration.arrange (visible.flatMap (buffer.decorationsIn targets))

end Buffer

end StrategyDesk
