import StrategyDesk.Text.Basic

/-!
# The small parts of TOML

Blanks, line breaks, comments, and the strings of all four kinds. Each reader takes the text from
where it stands and returns what it read and what follows.
-/

set_option autoImplicit false

namespace StrategyDesk.Toml

def skipGap (text : Text) : Text := text.dropWhile Text.isGap

/-- A character that may stand as it is in comments and strings: no control but the tabulator. -/
def isPlain (c : Char) : Bool := c == '\t' || (32 ≤ c.toNat && c.toNat != 127)

def lineBreak? : Text → Option Text
  | '\n' :: rest => some rest
  | '\r' :: '\n' :: rest => some rest
  | _ => none

def skipComment : Text → Text
  | '#' :: rest => rest.dropWhile isPlain
  | text => text

def lineEnd? (text : Text) : Option Text :=
  match skipComment (skipGap text) with
  | [] => some []
  | rest => lineBreak? rest

/-- Moves over blanks, comments and line breaks. Each round takes a line break, so `fuel` need not
exceed the length of the text. -/
def skipLines : Nat → Text → Text
  | 0, text => text
  | fuel + 1, text =>
      let rest := skipComment (skipGap text)
      match lineBreak? rest with
      | some after => skipLines fuel after
      | none => rest

def skipSpace (text : Text) : Text := skipLines (text.length + 1) text

def digitValue? (base : Nat) (c : Char) : Option Nat :=
  let value :=
    if c.isDigit then c.toNat - '0'.toNat
    else if 'a' ≤ c ∧ c ≤ 'f' then c.toNat - 'a'.toNat + 10
    else if 'A' ≤ c ∧ c ≤ 'F' then c.toNat - 'A'.toNat + 10
    else 16
  if value < base then some value else none

def numeral? (base : Nat) (digits : Text) : Option Nat :=
  digits.foldlM (fun number c => (digitValue? base c).map fun digit => number * base + digit) 0

/-- The character of a code in hexadecimal digits. Halves of surrogate pairs are no characters. -/
def codeChar? (digits : Text) : Option Char := do
  let code ← numeral? 16 digits
  if code.isValidChar then some (Char.ofNat code) else none

def letterEscape? : Char → Option Char
  | 'b' => some '\x08'
  | 't' => some '\t'
  | 'n' => some '\n'
  | 'f' => some '\x0c'
  | 'r' => some '\r'
  | '"' => some '"'
  | '\\' => some '\\'
  | _ => none

def before (c : Char) (read : Option (Text × Text)) : Option (Text × Text) :=
  read.map fun (text, rest) => (c :: text, rest)

def basic? : Text → Option (Text × Text)
  | '"' :: rest => some ([], rest)
  | '\\' :: 'u' :: a :: b :: c :: d :: rest => do
      before (← codeChar? [a, b, c, d]) (basic? rest)
  | '\\' :: 'U' :: a :: b :: c :: d :: e :: f :: g :: h :: rest => do
      before (← codeChar? [a, b, c, d, e, f, g, h]) (basic? rest)
  | '\\' :: letter :: rest => do before (← letterEscape? letter) (basic? rest)
  | c :: rest => if isPlain c ∧ c ≠ '\\' then before c (basic? rest) else none
  | [] => none

def literal? : Text → Option (Text × Text)
  | '\'' :: rest => some ([], rest)
  | c :: rest => if isPlain c then before c (literal? rest) else none
  | [] => none

/-- Where the reader of a string of several lines stands. -/
inductive Continuation where
  | within
  | breaking
  | skipping
deriving DecidableEq, Repr

/-- Reads a string of several lines with escapes, after its opening quotes. Up to two quotes may
stand before the closing three. -/
def longBasic? : Continuation → Text → Option (Text × Text)
  | .breaking, '\n' :: rest => longBasic? .skipping rest
  | .breaking, '\r' :: '\n' :: rest => longBasic? .skipping rest
  | .breaking, c :: rest => if Text.isGap c then longBasic? .breaking rest else none
  | .skipping, ' ' :: rest => longBasic? .skipping rest
  | .skipping, '\t' :: rest => longBasic? .skipping rest
  | .skipping, '\n' :: rest => longBasic? .skipping rest
  | .skipping, '\r' :: '\n' :: rest => longBasic? .skipping rest
  | _, '"' :: '"' :: '"' :: '"' :: '"' :: rest => some (['"', '"'], rest)
  | _, '"' :: '"' :: '"' :: '"' :: rest => some (['"'], rest)
  | _, '"' :: '"' :: '"' :: rest => some ([], rest)
  | _, '\\' :: 'u' :: a :: b :: c :: d :: rest => do
      before (← codeChar? [a, b, c, d]) (longBasic? .within rest)
  | _, '\\' :: 'U' :: a :: b :: c :: d :: e :: f :: g :: h :: rest => do
      before (← codeChar? [a, b, c, d, e, f, g, h]) (longBasic? .within rest)
  | _, '\\' :: letter :: rest =>
      match letterEscape? letter with
      | some c => before c (longBasic? .within rest)
      | none => longBasic? .breaking (letter :: rest)
  | _, '\n' :: rest => before '\n' (longBasic? .within rest)
  | _, '\r' :: '\n' :: rest => before '\n' (longBasic? .within rest)
  | _, c :: rest => if isPlain c ∧ c ≠ '\\' then before c (longBasic? .within rest) else none
  | _, [] => none

def longLiteral? : Text → Option (Text × Text)
  | '\'' :: '\'' :: '\'' :: '\'' :: '\'' :: rest => some (['\'', '\''], rest)
  | '\'' :: '\'' :: '\'' :: '\'' :: rest => some (['\''], rest)
  | '\'' :: '\'' :: '\'' :: rest => some ([], rest)
  | '\n' :: rest => before '\n' (longLiteral? rest)
  | '\r' :: '\n' :: rest => before '\n' (longLiteral? rest)
  | c :: rest => if isPlain c then before c (longLiteral? rest) else none
  | [] => none

def dropBreak (text : Text) : Text := (lineBreak? text).getD text

/-- Reads a string of any kind, if the text begins with a quote. The inner result is missing if the
string is faulty. -/
def string? : Text → Option (Option (Text × Text))
  | '"' :: '"' :: '"' :: rest => some (longBasic? .within (dropBreak rest))
  | '\'' :: '\'' :: '\'' :: rest => some (longLiteral? (dropBreak rest))
  | '"' :: rest => some (basic? rest)
  | '\'' :: rest => some (literal? rest)
  | _ => none

def isBare (c : Char) : Bool := c.isAlphanum || c == '_' || c == '-'

/-- Reads a name: in quotes of one line, or bare. -/
def name? : Text → Option (Text × Text)
  | '"' :: rest => basic? rest
  | '\'' :: rest => literal? rest
  | text =>
      match text.takeWhile isBare with
      | [] => none
      | name => some (name, text.dropWhile isBare)

/-- Reads a path of names with dots between them, blanks around each included. Each round takes a
dot, so `fuel` need not exceed the length of the text. -/
def names? : Nat → Text → Option (List String × Text)
  | 0, _ => none
  | fuel + 1, text => do
      let (name, rest) ← name? (skipGap text)
      match skipGap rest with
      | '.' :: more =>
          let (names, after) ← names? fuel more
          pure (String.ofList name :: names, after)
      | after => pure ([String.ofList name], after)

def longestPath : Nat := 79

def path? (text : Text) : Option (List String × Text) := do
  let (names, rest) ← names? (text.length + 1) text
  if names.length ≤ longestPath then some (names, rest) else none

end StrategyDesk.Toml
