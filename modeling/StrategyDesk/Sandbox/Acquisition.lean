import StrategyDesk.Sandbox.Manager

/-!
# Acquisitions that overlap

Several documents may ask a manager for their sandboxes at once. Each acquisition goes through
stages: it looks for the snapshot, and if there is none it waits for the lock, under which it looks
again and, if there still is none, loads. An event moves one acquisition on by one stage, and is
possible only as the lock allows.
-/

set_option autoImplicit false

namespace StrategyDesk

/-- How far an acquisition has come. -/
inductive AcquisitionStage where
  | arriving
  | waiting
  /-- It holds the lock while its load runs. -/
  | loading (attempt : Nat)
  | furnishing (snapshot : Snapshot)
  | finished (result : Except Failure Environment)

/-- A manager with the acquisitions that were made of it, in the order of their arrival, and the
one that holds the lock. -/
structure Acquisitions where
  manager : Manager
  stages : List AcquisitionStage
  lock : Option Nat

inductive AcquisitionEvent where
  | arrive
  | look (index : Nat)
  | lock (index : Nat)
  | loaded (index : Nat)
  | furnish (index : Nat)
  | release (env : Environment)

namespace Acquisitions

def initial (manager : Manager) : Acquisitions := ⟨manager, [], none⟩

def advance (state : Acquisitions) (index : Nat) (stage : AcquisitionStage) : Acquisitions :=
  { state with stages := state.stages.set index stage }

def step (state : Acquisitions) : AcquisitionEvent → Option Acquisitions
  | .arrive => some { state with stages := state.stages ++ [.arriving] }
  | .look index =>
      match state.stages[index]?, state.lock with
      | some .arriving, none =>
          match state.manager.snapshot with
          | some snapshot => some (state.advance index (.furnishing snapshot))
          | none => some (state.advance index .waiting)
      | _, _ => none
  | .lock index =>
      match state.stages[index]?, state.lock with
      | some .waiting, none =>
          match state.manager.snapshot with
          | some snapshot => some (state.advance index (.furnishing snapshot))
          | none =>
              let (manager, attempt) := state.manager.beginLoad
              some { state.advance index (.loading attempt) with manager, lock := some index }
      | _, _ => none
  | .loaded index =>
      match state.stages[index]? with
      | some (.loading attempt) =>
          match state.manager.endLoad attempt with
          | (manager, .ok snapshot) =>
              some { state.advance index (.furnishing snapshot) with manager, lock := none }
          | (manager, .error failure) =>
              some { state.advance index (.finished (.error failure)) with manager, lock := none }
      | _ => none
  | .furnish index =>
      match state.stages[index]? with
      | some (.furnishing snapshot) =>
          let (manager, result) := state.manager.furnish snapshot
          some { state.advance index (.finished result) with manager }
      | _ => none
  | .release _ => some state

def run (state : Acquisitions) : List AcquisitionEvent → Option Acquisitions
  | [] => some state
  | event :: rest => do (← state.step event).run rest

end Acquisitions

end StrategyDesk
