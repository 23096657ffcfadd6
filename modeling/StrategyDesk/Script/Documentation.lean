import StrategyDesk.Analysis.Finding
import StrategyDesk.Text.Basic

/-!
# Documentation comments

A declaration is documented by the comment directly before it, which opens with two stars and is
separated from it by blanks and modifiers only. The comment is read line by line: a line that starts
with `@` opens a tag, and the lines after it belong to the tag.
-/

set_option autoImplicit false

namespace StrategyDesk.Script

/-- The text without the modifier at its end, if it ends so, and without blanks before that. -/
def dropModifier (text : Text) (modifier : String) : Text :=
  Text.trimEnd ((Text.dropEnding? modifier.toList text).getD text)

def commentAtEnd? (before : Text) : Option Text :=
  let before := ["export", "declare"].foldl dropModifier (Text.trimEnd before)
  if "*/".toList.isSuffixOf before then Text.lastFrom? "/**".toList before else none

def dropOpeners : Text → Text
  | '/' :: '*' :: '*' :: rest => dropOpeners rest
  | text => text

def dropClosers : Text → Text
  | '/' :: '*' :: rest => dropClosers rest
  | text => text

/-- A line of a comment without blanks at its ends and without the star that leads it. -/
def commentLine (line : Text) : Text :=
  let line := Text.trim line
  Text.trim (("*".toList.isPrefixOf? line).getD line)

def commentLines (comment : Text) : List Text :=
  (Text.lines (dropClosers (dropOpeners comment).reverse).reverse).map commentLine

def tagOpening? (line : Text) : Option (Text × List Text) := do
  let tagged ← "@".toList.isPrefixOf? line
  let name := tagged.takeWhile fun c => !Text.isBlank c
  let beside := Text.trim ((tagged.dropWhile fun c => !Text.isBlank c).drop 1)
  pure (name, if beside = [] then [] else [beside])

/-- Takes a line in front of lines that are already read: of those, the ones that belong to a tag
opened further up, and the tags. -/
def takeLine (line : Text) (later : List Text × List (Text × List Text)) :
    List Text × List (Text × List Text) :=
  match tagOpening? line with
  | some (name, beside) => ([], (name, beside ++ later.1) :: later.2)
  | none => (line :: later.1, later.2)

def docTag (tag : Text × List Text) : DocTag :=
  let text := Text.trim (['\n'].intercalate tag.2)
  ⟨String.ofList tag.1, if text = [] then [] else [⟨String.ofList text, "text"⟩]⟩

/-- The tags of a documentation comment, in order. Text before the first tag is dropped. -/
def docTags (comment : Text) : List DocTag :=
  ((commentLines comment).foldr takeLine ([], [])).2.map docTag

end StrategyDesk.Script
