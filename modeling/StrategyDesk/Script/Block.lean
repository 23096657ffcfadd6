import StrategyDesk.Script.Cursor

/-!
# Blocks in braces

The body of a block is what stands between its braces, inner blocks included. A block that is never
closed goes on to the end of the text.
-/

set_option autoImplicit false

namespace StrategyDesk.Script

/-- The text up to the brace that closes the block, when `depth` inner blocks are open. -/
def blockBody : Nat → Text → Text
  | _, [] => []
  | depth, c :: rest =>
      if c = '\x7b' then c :: blockBody (depth + 1) rest
      else if c = '\x7d' then
        match depth with
        | 0 => []
        | outer + 1 => c :: blockBody outer rest
      else c :: blockBody depth rest

/-- The body of the first block that opens at the cursor or after it. -/
def Cursor.block? (cursor : Cursor) : Option Span := do
  let after ← (cursor.run (· != '\x7b')).2.one? (· == '\x7b')
  pure ⟨after.position, blockBody 0 after.rest⟩

/-- The names of the members of an enumeration: what stands between the commas of its body, without
initializers. What is no word is left out. -/
def enumMembers (body : Text) : List Text :=
  (body.splitOn ',').filterMap fun piece =>
    let name := Text.trim (piece.takeWhile (· != '='))
    if name ≠ [] ∧ name.all Text.isIdentifierChar then some name else none

end StrategyDesk.Script
