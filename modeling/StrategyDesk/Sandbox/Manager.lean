import StrategyDesk.Sandbox.Environment
import StrategyDesk.Sandbox.Target

/-!
# The manager of sandboxes

A manager makes sandboxes over one snapshot of the declaration files. The snapshot is loaded when
the first sandbox is asked for and kept from then on. A load that fails is reported to whom it was
made for, and the next one who asks makes another.
-/

set_option autoImplicit false

namespace StrategyDesk

/-- Where declaration files come from: what each attempt to load them yields, counted from zero. -/
structure DeclarationSource where
  load : Nat → Except Failure Snapshot

/-- What makes the services of sandboxes: what each attempt yields, counted from zero. -/
structure Backend where
  create : CompilerOptions → Nat → Except Failure Service

structure Manager where
  source : DeclarationSource
  backend : Backend
  options : CompilerOptions
  snapshot : Option Snapshot
  /-- The number of loads that were begun. -/
  loads : Nat
  services : Nat

namespace Manager

def create (source : DeclarationSource) (backend : Backend) (options : CompilerOptions) : Manager :=
  ⟨source, backend, options, none, 0, 0⟩

def isInitialized (manager : Manager) : Bool := manager.snapshot.isSome

/-- Begins a load; the number of the attempt is returned. -/
def beginLoad (manager : Manager) : Manager × Nat :=
  ({ manager with loads := manager.loads + 1 }, manager.loads)

def endLoad (manager : Manager) (attempt : Nat) : Manager × Except Failure Snapshot :=
  match manager.source.load attempt with
  | .ok snapshot => ({ manager with snapshot := some snapshot }, .ok snapshot)
  | .error failure => (manager, .error failure)

def furnish (manager : Manager) (snapshot : Snapshot) : Manager × Except Failure Environment :=
  ({ manager with services := manager.services + 1 },
    (manager.backend.create manager.options manager.services).map fun service =>
      .create s!"sandbox-{manager.services}" (.onSnapshot snapshot) service)

def acquire (manager : Manager) : Manager × Except Failure Environment :=
  match manager.snapshot with
  | some snapshot => manager.furnish snapshot
  | none =>
      let (begun, attempt) := manager.beginLoad
      match begun.endLoad attempt with
      | (ended, .ok snapshot) => ended.furnish snapshot
      | (ended, .error failure) => (ended, .error failure)

def acquireMany (manager : Manager) : Nat → Manager × List (Except Failure Environment)
  | 0 => (manager, [])
  | count + 1 =>
      let (next, result) := manager.acquire
      let (last, results) := next.acquireMany count
      (last, result :: results)

def release (_ : Manager) (env : Environment) : Environment := env.dispose

end Manager

end StrategyDesk
