import StrategyDesk.Analysis.Finding
import StrategyDesk.Script.Masking

/-!
# Brackets and literals

A script is well formed, as far as this library checks, when its string literals are closed and its
brackets pair up, both outside comments. Each fault is reported where it shows: an unclosed literal
from its quote on, a wrong or stray closing bracket on that bracket, and at the end of the script
one fault for each bracket that is still open, the innermost first.
-/

set_option autoImplicit false

namespace StrategyDesk.Script

inductive Bracket where
  | round
  | square
  | curly
deriving DecidableEq, Repr

namespace Bracket

def opener : Bracket → Char
  | round => '('
  | square => '['
  | curly => '\x7b'

def closer : Bracket → Char
  | round => ')'
  | square => ']'
  | curly => '\x7d'

def ofOpener? (c : Char) : Option Bracket :=
  [round, square, curly].find? fun bracket => bracket.opener == c

def ofCloser? (c : Char) : Option Bracket :=
  [round, square, curly].find? fun bracket => bracket.closer == c

end Bracket

def closerExpected (position length : Nat) (bracket : Bracket) : Finding :=
  .error position length 1005 s!"'{bracket.closer}' expected."

def strayCloser (position : Nat) : Finding :=
  .error position 1 1128 "Declaration or statement expected."

def unclosedLiteral (start stop : Nat) : Finding :=
  .error start (stop - start) 1002 "Unterminated string literal."

/-- The faults of a masked text from `position` on, with the literal that is open there, given by
its quote and its start, and the brackets that are open, the innermost first. -/
def faultsFrom : Option (Char × Nat) → Nat → List Bracket → Text → List Finding
  | none, position, openings, [] => openings.map (closerExpected position 0)
  | some (_, start), position, openings, [] =>
      unclosedLiteral start position :: openings.map (closerExpected position 0)
  | none, position, openings, c :: rest =>
      if isQuote c then faultsFrom (some (c, position)) (position + 1) openings rest
      else
        match Bracket.ofOpener? c, Bracket.ofCloser? c with
        | some bracket, _ => faultsFrom none (position + 1) (bracket :: openings) rest
        | none, none => faultsFrom none (position + 1) openings rest
        | none, some closed =>
            match openings with
            | [] => strayCloser position :: faultsFrom none (position + 1) [] rest
            | innermost :: outer =>
                if innermost = closed then faultsFrom none (position + 1) outer rest
                else
                  closerExpected position 1 innermost :: faultsFrom none (position + 1) outer rest
  | some (quote, start), position, openings, '\\' :: _ :: rest =>
      faultsFrom (some (quote, start)) (position + 2) openings rest
  | some (quote, start), position, openings, c :: rest =>
      if c = quote then faultsFrom none (position + 1) openings rest
      else if breaksLiteral quote c then
        unclosedLiteral start position :: faultsFrom none (position + 1) openings rest
      else faultsFrom (some (quote, start)) (position + 1) openings rest

/-- The faults in the brackets and literals of a script. -/
def faults (script : Text) : List Finding := faultsFrom none 0 [] (mask script)

end StrategyDesk.Script
