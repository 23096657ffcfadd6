/-!
# Error signals

Two producers each raise or lower a flag: the sandbox and the remote validator. Whether there are
errors is whether one of the flags is up. Subscribers are told when that changes, and only then: a
published value is a change of the disjunction, and a subscriber has news when something was
published since it last looked. The signals together with their subscribers are an audience, which
changes with each event.
-/

set_option autoImplicit false

namespace StrategyDesk

structure ErrorFlags where
  sandbox : Bool
  validator : Bool
deriving DecidableEq, Repr

namespace ErrorFlags

def any (flags : ErrorFlags) : Bool := flags.sandbox || flags.validator

end ErrorFlags

/-- The flags, the value that was last published, and how often something was. -/
structure Signals where
  flags : ErrorFlags
  hasErrors : Bool
  publications : Nat
deriving DecidableEq, Repr

namespace Signals

def quiet : Signals := ⟨⟨false, false⟩, false, 0⟩

/-- The signals with new flags; a changed disjunction is published. -/
def update (signals : Signals) (flags : ErrorFlags) : Signals :=
  if flags.any = signals.hasErrors then { signals with flags }
  else ⟨flags, flags.any, signals.publications + 1⟩

def setSandbox (signals : Signals) (value : Bool) : Signals :=
  signals.update { signals.flags with sandbox := value }

def setValidator (signals : Signals) (value : Bool) : Signals :=
  signals.update { signals.flags with validator := value }

end Signals

structure Subscriber where
  seen : Nat
deriving DecidableEq, Repr

namespace Subscriber

def of (signals : Signals) : Subscriber := ⟨signals.publications⟩

def hasNews (subscriber : Subscriber) (signals : Signals) : Bool :=
  subscriber.seen != signals.publications

end Subscriber

inductive SignalEvent where
  | sandbox (value : Bool)
  | validator (value : Bool)
  | subscribe
  | look (number : Nat)
deriving DecidableEq, Repr

/-- The signals, and their subscribers by number. -/
structure Audience where
  signals : Signals
  subscribers : List Subscriber
deriving DecidableEq, Repr

namespace Audience

def start : Audience := ⟨.quiet, []⟩

def step (audience : Audience) : SignalEvent → Audience
  | .sandbox value => { audience with signals := audience.signals.setSandbox value }
  | .validator value => { audience with signals := audience.signals.setValidator value }
  | .subscribe =>
      { audience with subscribers := audience.subscribers ++ [.of audience.signals] }
  | .look number =>
      { audience with subscribers := audience.subscribers.set number (.of audience.signals) }

def run (audience : Audience) (events : List SignalEvent) : Audience := events.foldl step audience

end Audience

end StrategyDesk
