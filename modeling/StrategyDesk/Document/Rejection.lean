import StrategyDesk.Diagnostic

/-!
# Where a rejection is shown

The remote validator names the place of a rejection by a 1-based offset into the text it was sent.
The offset may be anything; it is shown on the line it falls on, or, when that line is empty, on the
nearest line above that is not.
-/

set_option autoImplicit false

namespace StrategyDesk

/-- A rejection of a strategy by the remote validator. -/
structure Rejection where
  message : String
  line : Nat
  column : Nat
  /-- The 1-based offset of the fault in the text that was sent. -/
  index : Int
deriving DecidableEq, Repr

structure LineRange where
  line : Nat
  start : Nat
  stop : Nat
deriving DecidableEq, Repr

namespace Document

/-- The position that a 1-based offset means, moved to the nearer end when it lies outside. -/
def positionOf (doc : Document) (offset : Int) : Nat :=
  min (offset - 1).toNat doc.length

/-- Of the lines up to the one with the given number, the last that is not empty, and the first line
when all of them are. -/
def contentLine (doc : Document) (number : Nat) : Line :=
  (((doc.lines.take number).filter fun line => !line.isEmpty).getLast?).getD
    ((doc.lines.head?).getD ⟨1, 0, doc.length⟩)

/-- The line on which a fault at the given offset is shown. -/
def faultLine (doc : Document) (offset : Int) : LineRange :=
  let line := doc.contentLine (doc.lineAt (doc.positionOf offset)).number
  ⟨line.number, line.start, line.stop⟩

end Document

/-- The diagnostic of a rejection: an error over the whole line of the fault. -/
def Rejection.diagnostic (rejection : Rejection) (doc : Document) : Diagnostic :=
  let range := doc.faultLine rejection.index
  .ofValidator range.start range.stop rejection.message

end StrategyDesk
