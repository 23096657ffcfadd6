import StrategyDesk.Document

/-!
# The protected header

The first lines of a strategy are its imports, which the user may not edit. How much of a document
is protected is computed from the document itself at each edit. An edit is refused when it would
change the text of a protected line; a line break at the end of the header leaves it as it is and is
allowed. The host may change anything.
-/

set_option autoImplicit false

namespace StrategyDesk

inductive Editor where
  | user
  | host
deriving DecidableEq, Repr

/-- The protection of the first lines of a document. -/
structure Header where
  lines : Nat
deriving DecidableEq, Repr

namespace Header

def standard : Header := ⟨2⟩

def height (header : Header) (doc : Document) : Nat := min header.lines doc.lineCount

def lastLine? (header : Header) (doc : Document) : Option Line := doc.line? (header.height doc)

/-- The protected range of positions: from the start to the end of the last protected line. -/
def range? (header : Header) (doc : Document) : Option (Nat × Nat) :=
  (header.lastLine? doc).map fun line => (0, line.stop)

/-- Whether both documents have the same text in each of the lines 1 to `count`. -/
def agree (count : Nat) (before after : Document) : Bool :=
  (List.range count).all fun n => before.lineText? (n + 1) == after.lineText? (n + 1)

def permits (header : Header) (doc : Document) (change : Change) : Editor → Bool
  | .host => true
  | .user =>
      match header.lastLine? doc with
      | none => true
      | some last =>
          if change.start > last.stop then true
          else
            match doc.apply change with
            | .error _ => false
            | .ok after => agree (header.height doc) doc after

end Header

end StrategyDesk
