import StrategyDesk.Backtest
import StrategyDesk.Sandbox.Declarations
import StrategyDesk.Session

/-!
# The course of a check

A strategy is checked in a session of its own, whose worker goes on by itself while the program opens
the strategy, installs the libraries and waits. When the worker meets what, and how the network
answers each time it is asked, is left open: it is the course that the check takes.
-/

set_option autoImplicit false

namespace StrategyDesk

/-- What the worker of a session may meet. Where a call is answered it comes with the network as it
is at that time. -/
inductive Happening where
  | command (now : Nat)
  | expiry (now : Nat)
  | answered (number : Nat) (network : Web.Network)
  | cancelled (number : Nat)
  | crashed (number : Nat) (reason : String)

/-- Where the program waits or may be overtaken by the worker. -/
inductive Pause where
  | opened
  | listing
  | installed
  | flushing
  | flushed
  | warned
  | shown
deriving DecidableEq, Repr

structure Course where
  download : Nat → Download
  listing : Web.Network
  meanwhile : Pause → List Happening

def Course.unreachable : Course where
  download _ := .over Web.unreachable
  listing := Web.unreachable
  meanwhile _ := []

/-- A request of the validator, and what arrived in answer to it. -/
structure Exchange where
  /-- The number of the call. -/
  number : Nat
  request : Web.Request
  arrival : Except String Web.Response

/-- The exchange of a call. There is none if the request cannot be formed. -/
def Backtest.exchangeOf? (service : Backtest) (network : Web.Network) (call : Call) :
    Option Exchange :=
  (service.parseRequest call.content).toOption.map fun request =>
    ⟨call.number, request, network request⟩

/-- A session in the middle of a check, and the exchanges that its calls ended with. -/
structure Progress where
  session : Session
  exchanges : List Exchange

namespace Progress

def call? (progress : Progress) (number : Nat) : Option Call := do
  let worker ← progress.session.worker
  worker.calls.find? fun call => call.number == number

def step (progress : Progress) (event : Worker.Event) : Option Progress := do
  pure { progress with session := ← progress.session.workerStep event }

def meet (service : Backtest) (progress : Progress) : Happening → Option Progress
  | .command now => progress.step (.command now)
  | .expiry now => progress.step (.expiry now)
  | .answered number network => do
      let call ← progress.call? number
      let result := service.validate network call.content
      let next ← progress.step (.ended number (.answered result))
      let exchanges := progress.exchanges ++ (service.exchangeOf? network call).toList
      pure { next with exchanges }
  | .cancelled number => progress.step (.ended number .cancelled)
  | .crashed number reason => progress.step (.ended number (.crashed reason))

def meetAll (service : Backtest) (progress : Progress) : List Happening → Option Progress
  | [] => some progress
  | happening :: rest => do (← progress.meet service happening).meetAll service rest

def act {α : Type} (progress : Progress) (operation : Session → Option (Session × α)) :
    Option (Progress × α) := do
  let (session, result) ← operation progress.session
  pure ({ progress with session }, result)

end Progress

end StrategyDesk
