import StrategyDesk.Text.Basic

/-!
# Masked comments

Analysis looks at a script with its comments blanked out. Masking replaces each character of a
comment by a space, keeps line feeds, and leaves all else as it is, so that positions in the masked
script are positions in the script. Comment openers inside string literals open nothing.
-/

set_option autoImplicit false

namespace StrategyDesk.Script

/-- The characters that open a string literal, each closed by itself. -/
def isQuote (c : Char) : Bool := c == '"' || c == '\'' || c == '\x60'

/-- Whether a literal opened by `quote` ends at this line feed although it is not closed. Only the
back quote opens literals that go on over line feeds. -/
def breaksLiteral (quote c : Char) : Bool := c == '\n' && quote != '\x60'

/-- What the characters at a place of a script belong to. -/
inductive Region where
  | code
  | lineComment
  | blockComment
  | literal (quote : Char)
deriving DecidableEq, Repr

def blankOut (c : Char) : Char := if c = '\n' then '\n' else ' '

/-- Masks a text that begins in the given region. A backslash in a literal takes the next character
with it. -/
def maskFrom : Region → Text → Text
  | _, [] => []
  | .code, '/' :: '/' :: rest => ' ' :: ' ' :: maskFrom .lineComment rest
  | .code, '/' :: '*' :: rest => ' ' :: ' ' :: maskFrom .blockComment rest
  | .code, c :: rest => c :: maskFrom (if isQuote c then .literal c else .code) rest
  | .lineComment, c :: rest =>
      blankOut c :: maskFrom (if c = '\n' then .code else .lineComment) rest
  | .blockComment, '*' :: '/' :: rest => ' ' :: ' ' :: maskFrom .code rest
  | .blockComment, c :: rest => blankOut c :: maskFrom .blockComment rest
  | .literal quote, '\\' :: c :: rest => '\\' :: c :: maskFrom (.literal quote) rest
  | .literal quote, c :: rest =>
      c :: maskFrom (if c == quote || breaksLiteral quote c then .code else .literal quote) rest

def mask (script : Text) : Text := maskFrom .code script

end StrategyDesk.Script
