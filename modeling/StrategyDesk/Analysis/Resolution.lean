import StrategyDesk.Analysis.Finding
import StrategyDesk.Analysis.Module

/-!
# Resolution of imports

The import statements of a script bind names to declarations of modules. What cannot be found is
reported: a module where its name stands, an imported name where that stands.
-/

set_option autoImplicit false

namespace StrategyDesk

open Script

structure Binding where
  name : Text
  module : Module
  declaration : Declaration
deriving DecidableEq, Repr

structure Resolution where
  bindings : List Binding
  modules : List Module
  findings : List Finding
deriving DecidableEq, Repr

namespace Resolution

def binding? (resolution : Resolution) (name : Text) : Option Binding :=
  resolution.bindings.find? fun binding => binding.name == name

def member? (resolution : Resolution) (name : Text) : Option (Module × Member) :=
  resolution.modules.findSome? fun module =>
    (module.members.find? fun member => member.name == name).map fun member => (module, member)

def missingModule (specifier : Span) : Finding :=
  .error specifier.start specifier.text.length 2307
    s!"Cannot find module '{String.ofList specifier.text}'."

def missingExport (position : Nat) (specifier name : Text) : Finding :=
  .error position name.length 2305
    s!"Module '\"{String.ofList specifier}\"' has no exported member '{String.ofList name}'."

/-- The pieces of a text between commas, with their positions from `start` on. -/
def placePieces (start : Nat) : List Text → List Span
  | [] => []
  | piece :: rest => ⟨start, piece⟩ :: placePieces (start + piece.length + 1) rest

/-- The exported name and the name it is bound to, in a piece of an import list. -/
def importedName (piece : Text) : Text × Text :=
  match Text.cutAt? " as ".toList piece with
  | some (exported, bound) => (Text.trim exported, Text.trim bound)
  | none => (piece, piece)

/-- What one piece of an import list comes to: a binding or a finding. A blank piece is passed
over. -/
def resolvePiece (module : Module) (specifier : Text) (piece : Span) :
    Option (Binding ⊕ Finding) :=
  let trimmed := Text.trim piece.text
  if trimmed = [] then none
  else
    let (exported, bound) := importedName trimmed
    match module.declaration? exported with
    | some declaration => some (.inl ⟨bound, module, declaration⟩)
    | none =>
        let lead := (piece.text.takeWhile Text.isBlank).length
        some (.inr (missingExport (piece.start + lead) specifier exported))

def ofImport (files : FileSystem) (statement : ImportStatement) : Resolution :=
  match Module.find? files statement.specifier.text with
  | none => ⟨[], [], [missingModule statement.specifier]⟩
  | some module =>
      let pieces :=
        match statement.names with
        | none => []
        | some names => placePieces names.start (names.text.splitOn ',')
      let results := pieces.filterMap (resolvePiece module statement.specifier.text)
      ⟨results.filterMap Sum.getLeft?, [module], results.filterMap Sum.getRight?⟩

def ofScript (files : FileSystem) (masked : Text) : Resolution :=
  let parts := (ImportStatement.all masked).map (ofImport files)
  ⟨parts.flatMap bindings, parts.flatMap modules, parts.flatMap findings⟩

end Resolution

end StrategyDesk
