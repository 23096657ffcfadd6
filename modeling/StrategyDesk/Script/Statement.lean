import StrategyDesk.Script.Cursor

/-!
# The forms that analysis knows

Of a script, analysis reads only five forms: import statements, headers of declared modules,
declarations, the members of types, and accesses to a property. Each is a reader over the masked
text.
-/

set_option autoImplicit false

namespace StrategyDesk.Script

def isPlainQuote (c : Char) : Bool := c == '"' || c == '\''

/-- An import statement: the list of imported names, if there is one in braces, and the name of the
module. -/
structure ImportStatement where
  names : Option Span
  specifier : Span
deriving DecidableEq, Repr

namespace ImportStatement

/-- The list of names in braces, up to where the name of the module is due. -/
def namedClause? (cursor : Cursor) : Option (Option Span × Cursor) := do
  let cursor ← cursor.one? (· == '\x7b')
  let (names, cursor) := cursor.run (· != '\x7d')
  let cursor ← cursor.one? (· == '\x7d')
  let cursor ← cursor.blanks.word? "from".toList
  pure (some names, cursor.blanks)

def wholeClause? (cursor : Cursor) : Option (Option Span × Cursor) := do
  let cursor ← cursor.one? (· == '*')
  let cursor ← (← cursor.blanks?).word? "as".toList
  let (_, cursor) ← (← cursor.blanks?).name?
  let cursor ← (← cursor.blanks?).word? "from".toList
  pure (none, cursor.blanks)

def defaultClause? (cursor : Cursor) : Option (Option Span × Cursor) := do
  let (_, cursor) ← cursor.name?
  let cursor ← (← cursor.blanks?).word? "from".toList
  pure (none, cursor.blanks)

def specifier? (cursor : Cursor) : Option (Span × Cursor) := do
  let cursor ← cursor.one? isPlainQuote
  let (name, cursor) ← cursor.run? fun c => !isPlainQuote c
  let cursor ← cursor.one? isPlainQuote
  pure (name, cursor)

def read? (cursor : Cursor) : Option (ImportStatement × Cursor) := do
  let cursor ← (← cursor.word? "import".toList).blanks?
  let clause? := namedClause? cursor <|> wholeClause? cursor <|> defaultClause? cursor
  let (names, cursor) := clause?.getD (none, cursor)
  let (specifier, cursor) ← specifier? cursor
  pure (⟨names, specifier⟩, cursor)

def all (masked : Text) : List ImportStatement := occurrences wordStart read? masked

end ImportStatement

def moduleHeader? (name : Text) (cursor : Cursor) : Option (Cursor × Cursor) := do
  let cursor ← (← cursor.word? "declare".toList).blanks?
  let cursor ← (← cursor.word? "module".toList).blanks?
  let cursor ← cursor.one? isPlainQuote
  let cursor ← cursor.word? name
  let cursor ← cursor.one? isPlainQuote
  pure (cursor, cursor)

inductive Keyword where
  | constDecl
  | letDecl
  | varDecl
  | enumDecl
  | typeDecl
  | interfaceDecl
  | classDecl
  | functionDecl
  | namespaceDecl
deriving DecidableEq, Repr

namespace Keyword

def all : List Keyword :=
  [constDecl, letDecl, varDecl, enumDecl, typeDecl, interfaceDecl, classDecl, functionDecl,
   namespaceDecl]

def text : Keyword → String
  | constDecl => "const"
  | letDecl => "let"
  | varDecl => "var"
  | enumDecl => "enum"
  | typeDecl => "type"
  | interfaceDecl => "interface"
  | classDecl => "class"
  | functionDecl => "function"
  | namespaceDecl => "namespace"

end Keyword

/-- The opening of a declaration: its keyword, where that stands, and the declared name. -/
structure DeclarationHead where
  keyword : Keyword
  position : Nat
  name : Span
deriving DecidableEq, Repr

namespace DeclarationHead

def readWith? (cursor : Cursor) (keyword : Keyword) : Option (DeclarationHead × Cursor) := do
  let after ← (← cursor.word? keyword.text.toList).blanks?
  let (name, after) ← after.name?
  pure (⟨keyword, cursor.position, name⟩, after)

def read? (cursor : Cursor) : Option (DeclarationHead × Cursor) :=
  Keyword.all.findSome? (readWith? cursor)

def all (masked : Text) : List DeclarationHead := occurrences wordStart read? masked

end DeclarationHead

/-- A member of a type, on a line of its own: its name, its parameters in their brackets, if it has
such, and its type without blanks around it. -/
structure MemberLine where
  name : Span
  parameters : Text
  type : Text
deriving DecidableEq, Repr

namespace MemberLine

def parameterList (cursor : Cursor) : Text × Cursor :=
  let list? : Option (Text × Cursor) := do
    let inner ← cursor.one? (· == '(')
    let (between, after) := inner.run (· != ')')
    let after ← after.one? (· == ')')
    pure ('(' :: between.text ++ [')'], after)
  list?.getD ([], cursor)

/-- Reads the type of a member, which goes up to the semicolon on the same line and is at least one
character long, be that a blank. -/
def type? (cursor : Cursor) : Option (Text × Cursor) := do
  let (type, cursor) ← cursor.run? fun c => c != ';' && c != '\n'
  let cursor ← cursor.one? (· == ';')
  pure (Text.trim type.text, cursor)

def read? (cursor : Cursor) : Option (MemberLine × Cursor) := do
  let (name, cursor) ← cursor.gap.name?
  let (parameters, cursor) := parameterList cursor.gap
  let cursor ← cursor.gap.one? (· == ':')
  let (type, cursor) ← type? cursor
  pure (⟨name, parameters, type⟩, cursor)

def all (masked : Text) : List MemberLine := occurrences lineStart read? masked

end MemberLine

structure Access where
  object : Span
  property : Span
deriving DecidableEq, Repr

namespace Access

def read? (cursor : Cursor) : Option (Access × Cursor) := do
  let (object, cursor) ← cursor.name?
  let cursor ← cursor.one? (· == '.')
  let (property, cursor) ← cursor.name?
  pure (⟨object, property⟩, cursor)

def all (masked : Text) : List Access := occurrences anywhere read? masked

end Access

end StrategyDesk.Script
