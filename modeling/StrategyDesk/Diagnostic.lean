import StrategyDesk.Document

/-!
# Diagnostics

A diagnostic is a located message about a strategy, with its severity and the producer that found
it: the local sandbox or the remote validator.
-/

set_option autoImplicit false

namespace StrategyDesk

inductive Severity where
  | error
  | warning
deriving DecidableEq, Repr

inductive Origin where
  | sandbox
  | validator
deriving DecidableEq, Repr

/-- A message about the characters between two positions. -/
structure Diagnostic where
  start : Nat
  stop : Nat
  severity : Severity
  message : String
  origin : Origin
  source : String
deriving DecidableEq, Repr

namespace Diagnostic

def ofSandbox (start stop : Nat) (severity : Severity) (message : String) : Diagnostic :=
  ⟨start, stop, severity, message, .sandbox, "sandbox"⟩

def ofValidator (start stop : Nat) (message : String) : Diagnostic :=
  ⟨start, stop, .error, message, .validator, "static analysis"⟩

def isError (diagnostic : Diagnostic) : Bool := diagnostic.severity == .error

end Diagnostic

end StrategyDesk
