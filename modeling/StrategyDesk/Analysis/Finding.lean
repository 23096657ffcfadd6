/-!
# What an analysis reports and answers

The findings of an analysis of one file, and its answers to the questions an editor asks about a
position: which completions there are, and what the word there is.
-/

set_option autoImplicit false

namespace StrategyDesk

/-- The weight of a finding. Suggestions and messages are not shown. -/
inductive Category where
  | error
  | warning
  | suggestion
  | message
deriving DecidableEq, Repr

/-- A finding about `length` characters from position `start`, with the number of its kind. -/
structure Finding where
  start : Nat
  length : Nat
  category : Category
  code : Nat
  message : String
deriving DecidableEq, Repr

namespace Finding

def error (start length code : Nat) (message : String) : Finding :=
  ⟨start, length, .error, code, message⟩

def isError (finding : Finding) : Bool := finding.category == .error

end Finding

structure Completion where
  name : String
  kind : String
deriving DecidableEq, Repr

structure DisplayPart where
  text : String
  kind : String
deriving DecidableEq, Repr

structure DocTag where
  name : String
  text : List DisplayPart
deriving DecidableEq, Repr

structure QuickInfo where
  start : Nat
  length : Nat
  displayParts : List DisplayPart
  tags : List DocTag
deriving DecidableEq, Repr

end StrategyDesk
