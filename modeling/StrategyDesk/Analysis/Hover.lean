import StrategyDesk.Analysis.Finding
import StrategyDesk.Text.Basic

/-!
# Hovers

A hover shows the signature of what is under the cursor and, of its documentation, the description
and the example.
-/

set_option autoImplicit false

namespace StrategyDesk

structure HoverSection where
  tag : String
  text : String
deriving DecidableEq, Repr

structure Hover where
  start : Nat
  length : Nat
  signature : List DisplayPart
  sections : List HoverSection
deriving DecidableEq, Repr

namespace Hover

def shownTags : List String := ["description", "example"]

/-- The text with each dash before a space turned into a bullet. -/
def bulleted : Text → Text
  | '-' :: ' ' :: rest => '•' :: ' ' :: bulleted rest
  | c :: rest => c :: bulleted rest
  | [] => []

def joined (parts : List DisplayPart) : Text := parts.flatMap fun part => part.text.toList

/-- The section of a tag, if the documentation has the tag and it is not empty. -/
def section? (info : QuickInfo) (name : String) : Option HoverSection := do
  let tag ← info.tags.find? fun tag => tag.name == name
  if tag.text = [] then none
  else pure ⟨name, String.ofList (bulleted (joined tag.text))⟩

def ofInfo (info : QuickInfo) : Hover :=
  ⟨info.start, info.length, info.displayParts, shownTags.filterMap (section? info)⟩

def signatureText (hover : Hover) : String := String.ofList (joined hover.signature)

def sectionOf? (hover : Hover) (tag : String) : Option HoverSection :=
  hover.sections.find? fun shown => shown.tag == tag

def plainText (hover : Hover) : String :=
  hover.sections.foldl (fun text shown => text ++ s!"\n\n@{shown.tag}\n{shown.text}")
    hover.signatureText

end Hover

end StrategyDesk
