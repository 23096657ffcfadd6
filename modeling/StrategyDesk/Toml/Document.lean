import StrategyDesk.Toml.Moment
import StrategyDesk.Toml.Number
import StrategyDesk.Toml.Table

/-!
# Reading TOML documents

A document is read line by line into the tables it describes. Dates and times count as texts.
-/

set_option autoImplicit false

namespace StrategyDesk.Toml

def isTokenChar (c : Char) : Bool :=
  c.isAlphanum || c == '_' || c == '-' || c == '+' || c == '.' || c == ':'

def scalar? (token : Text) : Option Scalar :=
  if token = ['t', 'r', 'u', 'e'] then some (.flag true)
  else if token = ['f', 'a', 'l', 's', 'e'] then some (.flag false)
  else
    ((moment? token).map fun moment => Scalar.text (String.ofList moment)) <|>
      (double? token).map Scalar.decimal <|> (integer? token).map Scalar.integer

/-- Reads a scalar. A time may follow a date after one space. -/
def token? (text : Text) : Option (Scalar × Text) :=
  let token := text.takeWhile isTokenChar
  let rest := text.dropWhile isTokenChar
  let time :=
    match rest with
    | ' ' :: more => more.takeWhile isTokenChar
    | _ => []
  if isDate token ∧ time ≠ [] then
    (zonedTime? time).map fun shown =>
      (.text (String.ofList (token ++ 'T' :: shown)), rest.drop (time.length + 1))
  else (scalar? token).map fun scalar => (scalar, rest)

mutual

/-- Reads a value. Lists and tables nest at most `depth` deep, and each step of the reader spends
one unit of `fuel`, of which two for each character are enough. -/
def value? (source : String) : Nat → Nat → Text → Option (Setting × Text)
  | 0, _, _ => none
  | fuel + 1, depth, text =>
      match string? text with
      | some read =>
          read.map fun (string, rest) =>
            (.scalar (some source) (.text (String.ofList string)), rest)
      | none =>
          match depth, text with
          | 0, '[' :: _ => none
          | 0, '\x7b' :: _ => none
          | depth + 1, '[' :: rest =>
              (items? source fuel depth rest).map fun (items, after) =>
                (.list (some source) items, after)
          | depth + 1, '\x7b' :: rest =>
              match skipGap rest with
              | '\x7d' :: after => some (.table (some source) [], after)
              | _ =>
                  (members? source fuel depth [] rest).map fun (entries, after) =>
                    (.table (some source) (settingsOf source entries), after)
          | _, _ => (token? text).map fun (scalar, rest) => (.scalar (some source) scalar, rest)

/-- Reads the items of a list up to its closing bracket. A comma may follow the last one. -/
def items? (source : String) : Nat → Nat → Text → Option (List Setting × Text)
  | 0, _, _ => none
  | fuel + 1, depth, text =>
      match skipSpace text with
      | ']' :: after => some ([], after)
      | start => do
          let (item, rest) ← value? source fuel depth start
          match skipSpace rest with
          | ',' :: more =>
              let (items, after) ← items? source fuel depth more
              pure (item :: items, after)
          | ']' :: after => pure ([item], after)
          | _ => none

/-- Reads the entries of a table that has some, up to its closing brace, on one line. -/
def members? (source : String) : Nat → Nat → Entries → Text → Option (Entries × Text)
  | 0, _, _, _ => none
  | fuel + 1, depth, entries, text => do
      let (names, '=' :: rest) ← path? text | none
      let (value, rest) ← value? source fuel depth (skipGap rest)
      let entries ← entries.define names.dropLast (names.getLast?.getD "") value
      match skipGap rest with
      | ',' :: more => members? source fuel depth entries more
      | '\x7d' :: after => pure (entries, after)
      | _ => none

end

def deepest : Nat := 79

/-- A document while it is read: its tables, and where the lines go to. -/
structure Draft where
  entries : Entries
  path : List String

namespace Draft

def header? (closing : Text) (openAt : List String → String → Entries → Option Entries)
    (draft : Draft) (text : Text) : Option (Draft × Text) := do
  let (names, rest) ← path? text
  let after ← closing.isPrefixOf? rest
  let entries ← openAt names.dropLast (names.getLast?.getD "") draft.entries
  pure (⟨entries, names⟩, ← lineEnd? after)

def definition? (source : String) (draft : Draft) (text : Text) : Option (Draft × Text) := do
  let (names, '=' :: rest) ← path? text | none
  let (value, rest) ← value? source (2 * rest.length + 2) deepest (skipGap rest)
  let give (_ : Bool) (entries : Entries) : Option Entries :=
    entries.define names.dropLast (names.getLast?.getD "") value
  let entries ← draft.entries.changeAt false give draft.path false
  pure ({ draft with entries }, ← lineEnd? rest)

def line? (source : String) (draft : Draft) (text : Text) : Option (Draft × Text) :=
  match text with
  | '#' :: _ | '\n' :: _ | '\r' :: _ => (lineEnd? text).map fun rest => (draft, rest)
  | '[' :: '[' :: rest => draft.header? [']', ']'] Entries.extendTables rest
  | '[' :: rest => draft.header? [']'] Entries.openTable rest
  | _ => draft.definition? source text

/-- Reads lines to the end of the text. Each takes a character at least, so `fuel` need not exceed
the length of the text. -/
def lines? (source : String) : Nat → Draft → Text → Option Draft
  | 0, _, _ => none
  | fuel + 1, draft, text =>
      match skipGap text with
      | [] => some draft
      | start => do
          let (next, rest) ← draft.line? source start
          lines? source fuel next rest

end Draft

/-- The settings of a document, with the name of the source they come from. A mark of the byte order
at its front does not count. -/
def read? (source : String) (text : Text) : Option (List (String × Setting)) := do
  let text := if text.head? = some '\uFEFF' then text.drop 1 else text
  let draft ← Draft.lines? source (text.length + 1) ⟨[], []⟩ text
  pure (settingsOf source draft.entries)

end StrategyDesk.Toml
