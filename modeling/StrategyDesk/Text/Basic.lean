import StrategyDesk.Text.Classes

/-!
# Texts

A text is the list of its characters. This module holds the operations on texts that the rest of
the library shares: trimming, cutting at a character or at a word, searching and replacing.
-/

set_option autoImplicit false

namespace StrategyDesk

/-- A text: its characters in order. Every position in this library counts characters. -/
abbrev Text := List Char

namespace Text

def trimStart (text : Text) : Text := text.dropWhile isBlank

def trimEnd (text : Text) : Text := (text.reverse.dropWhile isBlank).reverse

def trim (text : Text) : Text := trimEnd (trimStart text)

def dropEnding? (ending text : Text) : Option Text :=
  (ending.reverse.isPrefixOf? text.reverse).map List.reverse

/-- The texts of the lines: the pieces between line feeds. -/
def lines (text : Text) : List Text := text.splitOn '\n'

def occursIn (word : Text) : Text → Bool
  | [] => word.isEmpty
  | c :: rest => word.isPrefixOf (c :: rest) || occursIn word rest

def cutAt? (word : Text) : Text → Option (Text × Text)
  | [] => if word.isEmpty then some ([], []) else none
  | c :: rest =>
      match word.isPrefixOf? (c :: rest) with
      | some after => some ([], after)
      | none => (cutAt? word rest).map fun (before, after) => (c :: before, after)

/-- The shortest end of the text that begins with `word`: what starts at its last occurrence. -/
def lastFrom? (word : Text) : Text → Option Text
  | [] => if word.isEmpty then some [] else none
  | c :: rest =>
      match lastFrom? word rest with
      | some found => some found
      | none => if word.isPrefixOf (c :: rest) then some (c :: rest) else none

def slice (start stop : Nat) (text : Text) : Text := (text.take stop).drop start

end Text

end StrategyDesk
