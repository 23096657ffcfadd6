/-!
# Failures

What can go wrong, as a type of causes, with the one wording of each. Findings about a strategy are
not failures: they are diagnostics.
-/

set_option autoImplicit false

namespace StrategyDesk

/-- The causes for which an operation of this library is refused or given up. -/
inductive Failure where
  | invalidRange (start stop length : Nat)
  | lineOutOfRange (number : Nat)
  | sandboxUninitialized (path : String)
  | sandbox (reason : String)
  | declarationLoad (reason : String)
  | transport (status : Option Nat) (reason : String)
  | pipelineClosed
  | configuration (reason : String)
  | serialization (reason : String)
  | internal (reason : String)
  | other (reason : String)
deriving DecidableEq, Repr

namespace Failure

/-- A status as failures name it: `Some(404)`, or `None` when there was no answer. -/
def statusText : Option Nat → String
  | some status => s!"Some({status})"
  | none => "None"

def message : Failure → String
  | invalidRange start stop length =>
      s!"Edit range {start}..{stop} is outside the document (length {length})"
  | lineOutOfRange number => s!"Line {number} does not exist"
  | sandboxUninitialized path => s!"Sandbox is not initialized; cannot write '{path}'"
  | sandbox reason => s!"Sandbox error: {reason}"
  | declarationLoad reason => s!"Failed to load declaration files: {reason}"
  | transport status reason => s!"Transport error (status {statusText status}): {reason}"
  | pipelineClosed => "Validation pipeline closed"
  | configuration reason => s!"Configuration error: {reason}"
  | serialization reason => s!"Serialization error: {reason}"
  | internal reason => s!"Internal error: {reason}"
  | other reason => reason

def isFatal : Failure → Bool
  | sandboxUninitialized _ | transport _ _ | pipelineClosed => true
  | _ => false

end Failure

end StrategyDesk
