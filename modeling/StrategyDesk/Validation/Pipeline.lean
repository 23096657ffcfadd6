import StrategyDesk.Document.Rejection
import StrategyDesk.Text.Basic

/-!
# The validation pipeline

The pipeline decides when a document is sent to the remote validator, and whether an answer still
counts. Content that may be sent waits for a window of quiet; it is issued when the window ends, or
at once when asked for. Requests are numbered, and only the answer to the latest request counts. The
gate is the error flag of the validator: it is up while there is something unverified.

The pipeline reads no clock. Its instants are milliseconds on the clock of its caller.
-/

set_option autoImplicit false

namespace StrategyDesk

inductive Outcome where
  | success
  | rejected (rejection : Rejection)
  | unexpected (status : Nat)
deriving DecidableEq, Repr

/-- What an answer means for the gate. -/
inductive Verdict where
  | valid
  | rejected
  | failed
deriving DecidableEq, Repr

namespace Outcome

def isSuccess : Outcome → Bool
  | success => true
  | _ => false

def verdict : Outcome → Verdict
  | success => .valid
  | rejected _ => .rejected
  | unexpected _ => .failed

end Outcome

structure Dispatch where
  number : Nat
  content : Text
deriving DecidableEq, Repr

inductive SkipReason where
  | empty
  | localErrors
  | sameAsIssued
deriving DecidableEq, Repr

inductive Decision where
  | scheduled
  /-- The content is already waiting, and its window goes on. -/
  | alreadyPending
  /-- It is not sent, and nothing waits any more. -/
  | skipped (reason : SkipReason)
deriving DecidableEq, Repr

/-- Content that waits for its window to end. -/
structure Pending where
  content : Text
  deadline : Nat
deriving DecidableEq, Repr

structure Issued where
  number : Nat
  content : Text
  verdict : Option Verdict
deriving DecidableEq, Repr

structure Pipeline where
  window : Nat
  pending : Option Pending
  lastIssued : Option Issued
  nextNumber : Nat
  gate : Bool
deriving DecidableEq, Repr

namespace Pipeline

def start (window : Nat) : Pipeline := ⟨window, none, none, 1, false⟩

def deadline? (pipeline : Pipeline) : Option Nat := pipeline.pending.map Pending.deadline

def hasPending (pipeline : Pipeline) : Bool := pipeline.pending.isSome

/-- Whether the latest request is not answered yet. -/
def isInFlight (pipeline : Pipeline) : Bool :=
  pipeline.lastIssued.any fun issued => issued.verdict.isNone

def isIdle (pipeline : Pipeline) : Bool := !pipeline.hasPending && !pipeline.isInFlight

def lastNumber? (pipeline : Pipeline) : Option Nat := pipeline.lastIssued.map Issued.number

def skipReason? (pipeline : Pipeline) (content : Text) (localError : Bool) : Option SkipReason :=
  if content = [] then some .empty
  else if localError then some .localErrors
  else if pipeline.lastIssued.map Issued.content = some content then some .sameAsIssued
  else none

/-- The gate as the verdict on the latest request sets it; without one that says anything it stays
as it is. -/
def restoredGate (pipeline : Pipeline) : Bool :=
  match pipeline.lastIssued.bind Issued.verdict with
  | some .valid => false
  | some .rejected => true
  | some .failed | none => pipeline.gate

/-- Takes in the content of the document after an analysis in the sandbox. -/
def onContent (pipeline : Pipeline) (content : Text) (localError : Bool) (now : Nat) :
    Pipeline × Decision :=
  match pipeline.skipReason? content localError with
  | some .sameAsIssued =>
      ({ pipeline with pending := none, gate := pipeline.restoredGate }, .skipped .sameAsIssued)
  | some reason => ({ pipeline with pending := none }, .skipped reason)
  | none =>
      if pipeline.pending.map Pending.content = some content then (pipeline, .alreadyPending)
      else
        ({ pipeline with pending := some ⟨content, now + pipeline.window⟩, gate := true },
          .scheduled)

def fireNow (pipeline : Pipeline) : Pipeline × Option Dispatch :=
  match pipeline.pending with
  | none => (pipeline, none)
  | some pending =>
      ({ pipeline with
          pending := none
          lastIssued := some ⟨pipeline.nextNumber, pending.content, none⟩
          nextNumber := pipeline.nextNumber + 1 },
        some ⟨pipeline.nextNumber, pending.content⟩)

def pollDue (pipeline : Pipeline) (now : Nat) : Pipeline × Option Dispatch :=
  if pipeline.pending.any fun pending => pending.deadline ≤ now then pipeline.fireNow
  else (pipeline, none)

/-- The gate after a verdict that counts. A valid text opens it only if nothing newer waits. -/
def gateAfter (pipeline : Pipeline) : Verdict → Bool
  | .valid => if pipeline.pending.isNone then false else pipeline.gate
  | .rejected => true
  | .failed => pipeline.gate

/-- Records the verdict on a request, and tells whether it counts: it does if the request is the
latest and has no verdict yet. -/
def settle (pipeline : Pipeline) (number : Nat) (verdict : Verdict) : Pipeline × Bool :=
  match pipeline.lastIssued with
  | none => (pipeline, false)
  | some issued =>
      if issued.number ≠ number ∨ issued.verdict.isSome then (pipeline, false)
      else
        ({ pipeline with
            lastIssued := some { issued with verdict := some verdict }
            gate := pipeline.gateAfter verdict },
          true)

def abandon (pipeline : Pipeline) : Pipeline :=
  match pipeline.lastIssued with
  | some issued =>
      if issued.verdict.isNone then (pipeline.settle issued.number .failed).1 else pipeline
  | none => pipeline

end Pipeline

end StrategyDesk
