import StrategyDesk.Analysis.Resolution
import StrategyDesk.Analysis.Service
import StrategyDesk.Script.Bracket

/-!
# Structural analysis

The analysis that comes with this library is shallow: brackets and literals, the resolution of
imports, properties of imported enumerations, and completions and hovers over what is imported. All
else is left to the remote validator.
-/

set_option autoImplicit false

namespace StrategyDesk.Structural

open Script

def missingProperty (access : Access) : Finding :=
  let property := String.ofList access.property.text
  let object := String.ofList access.object.text
  .error access.property.start access.property.text.length 2339
    s!"Property '{property}' does not exist on type 'typeof {object}'."

/-- The finding about an access, if it names an imported enumeration without such a member. -/
def accessFinding? (resolution : Resolution) (access : Access) : Option Finding := do
  let binding ← resolution.binding? access.object.text
  if binding.declaration.isEnum ∧ access.property.text ∉ binding.declaration.members then
    some (missingProperty access)
  else none

/-- A script as it is analysed: masked, with what its imports come to. -/
structure Study where
  masked : Text
  resolution : Resolution
deriving DecidableEq, Repr

namespace Study

def ofScript (files : FileSystem) (script : Text) : Study :=
  let masked := mask script
  ⟨masked, .ofScript files masked⟩

/-- The findings about the imports of a script, then those about its accesses. -/
def findings (study : Study) : List Finding :=
  study.resolution.findings ++
    (Access.all study.masked).filterMap (accessFinding? study.resolution)

end Study

/-- What is being typed at the end of a text. -/
inductive Typing where
  | property (object stem : Text)
  | name (stem : Text)
deriving DecidableEq, Repr

/-- What is being typed at the end of a masked text. A word that cannot be a name is no start of
one. -/
def typingAt (before : Text) : Typing :=
  let word := (before.reverse.takeWhile Text.isNameChar).reverse
  match before.reverse.dropWhile Text.isNameChar with
  | '.' :: earlier =>
      let object := (earlier.takeWhile Text.isNameChar).reverse
      .property (object.dropWhile fun c => !Text.isNameStart c) word
  | _ =>
      match word with
      | c :: _ => .name (if Text.isNameStart c then word else [])
      | [] => .name []

/-- The completions whose names begin with the stem, in the order of their names and each name
once. -/
def select (stem : Text) (candidates : List (Text × String)) : List Completion :=
  let fitting := candidates.filter fun candidate => stem.isPrefixOf candidate.1
  let sorted := fitting.mergeSort fun a b => !decide (b.1 < a.1)
  (sorted.eraseRepsBy fun a b => a.1 == b.1).map fun (name, kind) => ⟨String.ofList name, kind⟩

def memberCandidates (resolution : Resolution) : List (Text × String) :=
  resolution.modules.flatMap fun module =>
    module.members.map fun member => (member.name, member.kind)

def propertyCandidates (resolution : Resolution) (object : Text) : List (Text × String) :=
  match resolution.binding? object with
  | some binding =>
      if binding.declaration.isEnum then
        binding.declaration.members.map fun name => (name, "enum member")
      else memberCandidates resolution
  | none => memberCandidates resolution

def nameCandidates (resolution : Resolution) : List (Text × String) :=
  resolution.bindings.map fun binding => (binding.name, binding.declaration.keyword.text)

def Study.completionsAt (study : Study) (position : Nat) : List Completion :=
  match typingAt (study.masked.take position) with
  | .property object stem => select stem (propertyCandidates study.resolution object)
  | .name stem => select stem (nameCandidates study.resolution)

def wordAt? (text : Text) (position : Nat) : Option Span :=
  let left := ((text.take position).reverse.takeWhile Text.isIdentifierChar).reverse
  let right := (text.drop position).takeWhile Text.isIdentifierChar
  if left ++ right = [] then none
  else some ⟨min position text.length - left.length, left ++ right⟩

/-- The tags of a comment, if there is one. -/
def tagsOf (comment? : Option Text) : List DocTag := (comment?.map docTags).getD []

def memberInfo (word : Span) (module : Module) (member : Member) : QuickInfo where
  start := word.start
  length := word.text.length
  displayParts :=
    [⟨s!"({member.kind})", "text"⟩, ⟨" ", "space"⟩,
     ⟨String.ofList member.name, if member.isMethod then "methodName" else "propertyName"⟩,
     ⟨String.ofList member.signature, "text"⟩]
  tags := tagsOf (module.comment? member.position)

def nameKind : Keyword → String
  | .enumDecl => "enumName"
  | .constDecl | .letDecl | .varDecl => "localName"
  | _ => "aliasName"

def bindingInfo (word : Span) (binding : Binding) : QuickInfo where
  start := word.start
  length := word.text.length
  displayParts :=
    [⟨binding.declaration.keyword.text, "keyword"⟩, ⟨" ", "space"⟩,
     ⟨String.ofList binding.name, nameKind binding.declaration.keyword⟩]
  tags := tagsOf (binding.module.comment? binding.declaration.position)

/-- What there is to say about the word at a position of a script: after a point it is taken for a
member of an imported module, else for an imported name. -/
def Study.quickInfoAt? (study : Study) (position : Nat) : Option QuickInfo := do
  let word ← wordAt? study.masked position
  if word.start > 0 ∧ study.masked[word.start - 1]? = some '.' then
    let (module, member) ← study.resolution.member? word.text
    pure (memberInfo word module member)
  else
    pure (bindingInfo word (← study.resolution.binding? word.text))

def Study.answers (study : Study) : Answers := ⟨study.completionsAt, study.quickInfoAt?⟩

/-- The structural analysis as a service. A file that cannot be read has no findings and no
answers. -/
def service : Service where
  syntactic files path := ((files.read? path).map faults).getD []
  semantic files path :=
    ((files.read? path).map fun script => (Study.ofScript files script).findings).getD []
  answers files path :=
    ((files.read? path).map fun script => (Study.ofScript files script).answers).getD .silent

end StrategyDesk.Structural
