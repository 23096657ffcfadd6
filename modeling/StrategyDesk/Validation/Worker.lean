import StrategyDesk.Validation.Pipeline
import StrategyDesk.Validation.Signals
import StrategyDesk.View

/-!
# The validation worker

The worker of a document carries out what its pipeline decides. It takes commands from a queue,
notices the end of windows, makes calls to the remote validator and takes in how they end. A call is
aborted when a newer one is made, but stays among the calls until its end is taken in, and an end
that was reached before still arrives. What comes of it is seen on the display: the diagnostics in
the view, the error signals, and the failures for the host.
-/

set_option autoImplicit false

namespace StrategyDesk

inductive Command where
  /-- The content of the document after an analysis in the sandbox. -/
  | content (text : Text) (localError : Bool)
  | flush (waiter : Nat)
deriving DecidableEq, Repr

/-- A call to the remote validator whose end was not taken in yet. -/
structure Call where
  number : Nat
  content : Text
  aborted : Bool
deriving DecidableEq, Repr

inductive Ending where
  | answered (result : Except Failure Outcome)
  /-- The end of a call that was aborted in time. -/
  | cancelled
  | crashed (reason : String)

/-- Where the results of a document's analysis and validation are seen. -/
structure Display where
  view : View
  signals : Signals
  failures : List Failure
deriving DecidableEq, Repr

namespace Display

def publish (display : Display) (origin : Origin) (diagnostics : List Diagnostic) : Display :=
  { display with view := display.view.publish origin diagnostics }

def setValidator (display : Display) (value : Bool) : Display :=
  { display with signals := display.signals.setValidator value }

def setSandbox (display : Display) (value : Bool) : Display :=
  { display with signals := display.signals.setSandbox value }

def report (display : Display) (failure : Failure) : Display :=
  { display with failures := display.failures ++ [failure] }

def showResult (display : Display) : Except Failure Outcome → Display
  | .ok .success => display.publish .validator []
  | .ok (.rejected rejection) =>
      display.publish .validator [rejection.diagnostic display.view.document]
  | .ok (.unexpected status) =>
      display.report (.transport (some status) "validation request failed")
  | .error failure => display.report failure

end Display

def verdictOf : Except Failure Outcome → Verdict
  | .ok outcome => outcome.verdict
  | .error _ => .failed

structure Worker where
  pipeline : Pipeline
  queue : List Command
  calls : List Call
  /-- Those who wait until nothing is open. -/
  waiters : List Nat
  /-- Those who waited and were told, in order. -/
  answered : List Nat
deriving DecidableEq, Repr

namespace Worker

def start (window : Nat) : Worker := ⟨.start window, [], [], [], []⟩

def submit (worker : Worker) (command : Command) : Worker :=
  { worker with queue := worker.queue ++ [command] }

/-- Makes the call for a request, and aborts the calls that are still open. -/
def send (worker : Worker) : Option Dispatch → Worker
  | none => worker
  | some dispatch =>
      { worker with
          calls := (worker.calls.map fun call => { call with aborted := true }) ++
            [⟨dispatch.number, dispatch.content, false⟩] }

def notify (worker : Worker) : Worker :=
  if worker.pipeline.isIdle then
    { worker with waiters := [], answered := worker.answered ++ worker.waiters }
  else worker

def handle (worker : Worker) (display : Display) (now : Nat) : Command → Worker × Display
  | .content text localError =>
      let (pipeline, _) := worker.pipeline.onContent text localError now
      ({ worker with pipeline }, display.setValidator pipeline.gate)
  | .flush waiter =>
      let (pipeline, dispatch?) := worker.pipeline.fireNow
      (({ worker with pipeline, waiters := worker.waiters ++ [waiter] }).send dispatch?, display)

def expire (worker : Worker) (now : Nat) : Worker :=
  let (pipeline, dispatch?) := worker.pipeline.pollDue now
  ({ worker with pipeline }).send dispatch?

/-- Takes in the result of a call. If the call is not the latest any more, nothing comes of it. -/
def settle (worker : Worker) (display : Display) (number : Nat)
    (result : Except Failure Outcome) : Worker × Display :=
  match worker.pipeline.settle number (verdictOf result) with
  | (_, false) => (worker, display)
  | (pipeline, true) =>
      ({ worker with pipeline }, (display.showResult result).setValidator pipeline.gate)

/-- Takes in that a call died. If it was the last open one, its request is taken for failed. -/
def bury (worker : Worker) (display : Display) (reason : String) : Worker × Display :=
  ({ worker with
      pipeline := if worker.calls.isEmpty then worker.pipeline.abandon else worker.pipeline },
    display.report (.internal s!"validation task failed: {reason}"))

def reap (worker : Worker) (display : Display) (number : Nat) (ending : Ending) :
    Worker × Display :=
  let remaining :=
    { worker with calls := worker.calls.filter fun call => call.number != number }
  match ending with
  | .answered result => remaining.settle display number result
  | .cancelled => (remaining, display)
  | .crashed reason => remaining.bury display reason

inductive Event where
  | command (now : Nat)
  | expiry (now : Nat)
  | ended (number : Nat) (ending : Ending)

/-- Whether a call may end so: only an aborted call is cancelled. -/
def mayEnd (worker : Worker) (number : Nat) : Ending → Bool
  | .cancelled => worker.calls.any fun call => call.number == number && call.aborted
  | _ => worker.calls.any fun call => call.number == number

/-- Carries out an event, if it is possible. After each event those who wait are told if nothing is
open. -/
def step (worker : Worker) (display : Display) : Event → Option (Worker × Display)
  | .command now =>
      match worker.queue with
      | [] => none
      | command :: queue =>
          let (next, shown) := ({ worker with queue }).handle display now command
          some (next.notify, shown)
  | .expiry now =>
      match worker.pipeline.deadline? with
      | none => none
      | some deadline =>
          if deadline ≤ now then some ((worker.expire now).notify, display) else none
  | .ended number ending =>
      if worker.mayEnd number ending then
        let (next, shown) := worker.reap display number ending
        some (next.notify, shown)
      else none

def run (worker : Worker) (display : Display) : List Event → Option (Worker × Display)
  | [] => some (worker, display)
  | event :: rest => do
      let (next, shown) ← worker.step display event
      next.run shown rest

/-- A bound on the events that a worker can meet without new commands: a command may start a window,
whose end may start a call. -/
def work (worker : Worker) : Nat :=
  3 * worker.queue.length + 2 * worker.pipeline.pending.toList.length + worker.calls.length

end Worker

end StrategyDesk
