import StrategyDesk.Sandbox.FileSystem
import StrategyDesk.Script.Block
import StrategyDesk.Script.Documentation
import StrategyDesk.Script.Masking
import StrategyDesk.Script.Statement

/-!
# Declared modules

A module is the body of the first block after a header `declare module "name"` in some file of the
sandbox. Analysis knows of it what it declares, at any depth, and the members of its types.
-/

set_option autoImplicit false

namespace StrategyDesk

open Script

structure Declaration where
  keyword : Keyword
  name : Text
  members : List Text
  position : Nat
deriving DecidableEq, Repr

namespace Declaration

def isEnum (declaration : Declaration) : Bool := declaration.keyword == .enumDecl

def ofHead (masked : Text) (head : DeclarationHead) : Declaration :=
  let members :=
    if head.keyword = .enumDecl then
      ((Cursor.mk head.name.stop (masked.drop head.name.stop)).block?.map fun body =>
        enumMembers body.text).getD []
    else []
  ⟨head.keyword, head.name.text, members, head.position⟩

end Declaration

/-- A member of some type of a module. -/
structure Member where
  isMethod : Bool
  name : Text
  signature : Text
  position : Nat
deriving DecidableEq, Repr

namespace Member

def kind (member : Member) : String := if member.isMethod then "method" else "property"

def ofLine (line : MemberLine) : Member :=
  ⟨!line.parameters.isEmpty, line.name.text, line.parameters ++ ": ".toList ++ line.type,
    line.name.start⟩

end Member

/-- A module: the body of its block as written, and what stands in it. -/
structure Module where
  body : Text
  declarations : List Declaration
  members : List Member
deriving DecidableEq, Repr

namespace Module

def ofBody (body masked : Text) : Module :=
  ⟨body, (DeclarationHead.all masked).map (Declaration.ofHead masked),
    (MemberLine.all masked).map Member.ofLine⟩

def declaration? (module : Module) (name : Text) : Option Declaration :=
  module.declarations.find? fun declaration => declaration.name == name

def comment? (module : Module) (position : Nat) : Option Text :=
  commentAtEnd? (module.body.take position)

def mentions (name text : Text) : Bool :=
  Text.occursIn ('"' :: name ++ ['"']) text || Text.occursIn ('\'' :: name ++ ['\'']) text

/-- What a file says about a module. -/
inductive Search where
  | absent
  /-- There is a header, but no block after it. -/
  | broken
  | found (module : Module)

def search (name content : Text) : Search :=
  if !mentions name content then .absent
  else
    let masked := mask content
    match (occurrences anywhere (moduleHeader? name) masked).head? with
    | none => .absent
    | some cursor =>
        match cursor.block? with
        | none => .broken
        | some body => .found (ofBody (content.slice body.start body.stop) body.text)

def firstIn? (name : Text) : List Text → Option Module
  | [] => none
  | content :: rest =>
      match search name content with
      | .absent => firstIn? name rest
      | .broken => none
      | .found module => some module

def find? (files : FileSystem) (name : Text) : Option Module :=
  firstIn? name (files.sources.map Prod.snd)

end Module

end StrategyDesk
