import Mathlib.Data.List.Basic
import StrategyDesk.Sandbox.Acquisition

/-!
# Loads of overlapping acquisitions

However the acquisitions of one manager overlap, its loads come one at a time, and after one that
succeeded there is none. All sandboxes are made over what that one yielded. A load that fails leaves
the manager as it was, and the next acquisition makes another.
-/

set_option autoImplicit false

namespace StrategyDesk.Acquisitions

/-! ## What one event does -/

/-- An acquisition that asks for the snapshot: the first time, or once more under the lock. -/
inductive Asks (state : Acquisitions) : AcquisitionEvent → Nat → Prop where
  | first {index : Nat} (stage : state.stages[index]? = some .arriving) :
      Asks state (.look index) index
  | again {index : Nat} (stage : state.stages[index]? = some .waiting) :
      Asks state (.lock index) index

inductive Moves (state : Acquisitions) : AcquisitionEvent → Acquisitions → Prop where
  | arrives : Moves state .arrive { state with stages := state.stages ++ [.arriving] }
  | finds {event : AcquisitionEvent} {index : Nat} {snapshot : Snapshot}
      (asks : state.Asks event index) (free : state.lock = none)
      (held : state.manager.snapshot = some snapshot) :
      Moves state event (state.advance index (.furnishing snapshot))
  | waits {index : Nat} (stage : state.stages[index]? = some .arriving) (free : state.lock = none)
      (missing : state.manager.snapshot = none) :
      Moves state (.look index) (state.advance index .waiting)
  | begins {index : Nat} (stage : state.stages[index]? = some .waiting) (free : state.lock = none)
      (missing : state.manager.snapshot = none) :
      Moves state (.lock index)
        { state.advance index (.loading state.manager.loads) with
          manager := { state.manager with loads := state.manager.loads + 1 }
          lock := some index }
  | loads {index attempt : Nat} {snapshot : Snapshot}
      (stage : state.stages[index]? = some (.loading attempt))
      (yields : state.manager.source.load attempt = .ok snapshot) :
      Moves state (.loaded index)
        { state.advance index (.furnishing snapshot) with
          manager := { state.manager with snapshot := some snapshot }
          lock := none }
  | fails {index attempt : Nat} {failure : Failure}
      (stage : state.stages[index]? = some (.loading attempt))
      (yields : state.manager.source.load attempt = .error failure) :
      Moves state (.loaded index)
        { state.advance index (.finished (.error failure)) with lock := none }
  | furnishes {index : Nat} {snapshot : Snapshot}
      (stage : state.stages[index]? = some (.furnishing snapshot)) :
      Moves state (.furnish index)
        { state.advance index (.finished (state.manager.furnish snapshot).2) with
          manager := { state.manager with services := state.manager.services + 1 } }
  | releases {env : Environment} : Moves state (.release env) state

variable {state next : Acquisitions}

theorem step_moves {event : AcquisitionEvent} (stepped : state.step event = some next) :
    state.Moves event next := by
  cases event with
  | arrive =>
      cases stepped
      exact .arrives
  | look index =>
      simp only [step] at stepped
      split at stepped
      next stage free =>
        cases held : state.manager.snapshot with
        | some snapshot =>
            rw [held] at stepped
            cases stepped
            exact .finds (.first stage) free held
        | none =>
            rw [held] at stepped
            cases stepped
            exact .waits stage free held
      · cases stepped
  | lock index =>
      simp only [step] at stepped
      split at stepped
      next stage free =>
        cases held : state.manager.snapshot with
        | some snapshot =>
            rw [held] at stepped
            cases stepped
            exact .finds (.again stage) free held
        | none =>
            rw [held] at stepped
            cases stepped
            exact .begins stage free held
      · cases stepped
  | loaded index =>
      simp only [step, Manager.endLoad] at stepped
      split at stepped
      next attempt stage =>
        cases yields : state.manager.source.load attempt with
        | ok snapshot =>
            rw [yields] at stepped
            cases stepped
            exact .loads stage yields
        | error failure =>
            rw [yields] at stepped
            cases stepped
            exact .fails stage yields
      · cases stepped
  | furnish index =>
      simp only [step] at stepped
      split at stepped
      next snapshot stage =>
        cases stepped
        exact .furnishes stage
      · cases stepped
  | release env =>
      cases stepped
      exact .releases

/-! ## An acquisition on its own -/

theorem advance_last (manager : Manager) (stages : List AcquisitionStage)
    (old new : AcquisitionStage) (lock : Option Nat) :
    (Acquisitions.mk manager (stages ++ [old]) lock).advance stages.length new =
      ⟨manager, stages ++ [new], lock⟩ := by
  rw [advance, List.set_append_right _ _ (Nat.le_refl _), Nat.sub_self, List.set_cons_zero]

/-- An acquisition that is made while no other goes on is one by the manager as a whole. -/
theorem acquire_alone (state : Acquisitions) (free : state.lock = none) :
    ∃ events, state.run (.arrive :: events) =
      some ⟨state.manager.acquire.1, state.stages ++ [.finished state.manager.acquire.2], none⟩ := by
  obtain ⟨manager, stages, lock⟩ := state
  cases free
  have here (stage : AcquisitionStage) : (stages ++ [stage])[stages.length]? = some stage := by
    rw [List.getElem?_append_right (Nat.le_refl _), Nat.sub_self, List.getElem?_cons_zero]
  cases held : manager.snapshot with
  | some snapshot =>
      refine ⟨[.look stages.length, .furnish stages.length], ?_⟩
      simp only [run, step, here, held, advance_last, Manager.acquire, Option.bind_eq_bind,
        Option.bind_some]
  | none =>
      cases yields : manager.source.load manager.loads with
      | ok snapshot =>
          refine ⟨[.look stages.length, .lock stages.length, .loaded stages.length,
            .furnish stages.length], ?_⟩
          simp only [run, step, here, held, advance_last, Manager.acquire, Manager.beginLoad,
            Manager.endLoad, yields, Option.bind_eq_bind, Option.bind_some]
      | error failure =>
          refine ⟨[.look stages.length, .lock stages.length, .loaded stages.length], ?_⟩
          simp only [run, step, here, held, advance_last, Manager.acquire, Manager.beginLoad,
            Manager.endLoad, yields, Option.bind_eq_bind, Option.bind_some]

/-! ## The loads of a run -/

/-- What is noted of a load: that it began, and how it ended. -/
inductive LoadNote where
  | began (attempt : Nat)
  | ended (attempt : Nat) (result : Except Failure Snapshot)

def loadNotes (state next : Acquisitions) : AcquisitionEvent → List LoadNote
  | .lock index =>
      match next.stages[index]? with
      | some (.loading attempt) => [.began attempt]
      | _ => []
  | .loaded index =>
      match state.stages[index]? with
      | some (.loading attempt) => [.ended attempt (state.manager.source.load attempt)]
      | _ => []
  | _ => []

def loadLog (state : Acquisitions) : List AcquisitionEvent → List LoadNote
  | [] => []
  | event :: rest =>
      match state.step event with
      | none => []
      | some next => state.loadNotes next event ++ next.loadLog rest

/-- Whether a stage is one that an acquisition can be at while the manager and the lock are as they
are. -/
def Fits (state : Acquisitions) (index : Nat) : AcquisitionStage → Prop
  | .loading _ => state.lock = some index
  | .furnishing snapshot => state.manager.snapshot = some snapshot
  | .finished (.ok env) => state.manager.snapshot = some env.files.snapshot
  | _ => True

/-- Loads take turns: they run under the lock and only as long as there is no snapshot, and the
snapshot is what the last of them yielded. -/
structure InTurn (state : Acquisitions) (log : List LoadNote) : Prop where
  fits : ∀ index stage, state.stages[index]? = some stage → state.Fits index stage
  locked : ∀ index, state.lock = some index →
    ∃ attempt, state.stages[index]? = some (.loading attempt)
  missing : state.lock ≠ none → state.manager.snapshot = none
  kept : ∀ snapshot, state.manager.snapshot = some snapshot ↔
    ∃ attempt, LoadNote.ended attempt (.ok snapshot) ∈ log
  last : ∀ before attempt snapshot after,
    log = before ++ .ended attempt (.ok snapshot) :: after → after = []

theorem start_inTurn (source : DeclarationSource) (backend : Backend) (options : CompilerOptions) :
    (initial (.create source backend options)).InTurn [] where
  fits index stage held := by cases held
  locked index locked := by cases locked
  missing locked := absurd rfl locked
  kept snapshot := by simp [initial, Manager.create]
  last before attempt snapshot after split := by simp at split

theorem stage_advance {index : Nat} {old : AcquisitionStage}
    (held : state.stages[index]? = some old) (stage : AcquisitionStage) (other : Nat) :
    (state.advance index stage).stages[other]? =
      if other = index then some stage else state.stages[other]? := by
  obtain ⟨inside, _⟩ := List.getElem?_eq_some_iff.mp held
  rw [advance, List.getElem?_set]
  by_cases here : other = index
  · rw [if_pos here, if_pos here.symm, if_pos inside]
  · rw [if_neg here, if_neg (Ne.symm here)]

/-- What fits goes on to fit while a lock that is held stays held and a snapshot stays. -/
theorem Fits.onward {index : Nat} {stage : AcquisitionStage} (fits : state.Fits index stage)
    (lock : state.lock = some index → next.lock = some index)
    (snapshot : ∀ held, state.manager.snapshot = some held → next.manager.snapshot = some held) :
    next.Fits index stage := by
  cases stage with
  | arriving => trivial
  | waiting => trivial
  | loading attempt => exact lock fits
  | furnishing held => exact snapshot held fits
  | finished result =>
      cases result with
      | error failure => trivial
      | ok env => exact snapshot _ fits

/-- After one acquisition has moved on, all stages fit if its own does and those of the others do. -/
theorem fits_of_advance {index : Nat} {old stage : AcquisitionStage}
    (held : state.stages[index]? = some old)
    (stages : next.stages = (state.advance index stage).stages) (fits : next.Fits index stage)
    (others : ∀ other now, other ≠ index → state.stages[other]? = some now → next.Fits other now)
    (other : Nat) (now : AcquisitionStage) (at_stage : next.stages[other]? = some now) :
    next.Fits other now := by
  rw [stages, stage_advance held] at at_stage
  by_cases here : other = index
  · rw [if_pos here] at at_stage
    cases at_stage
    exact here ▸ fits
  · rw [if_neg here] at at_stage
    exact others other now here at_stage

section Step

variable {log : List LoadNote}

theorem InTurn.log_of_missing (turn : state.InTurn log) (missing : state.manager.snapshot = none)
    {attempt : Nat} {snapshot : Snapshot} : LoadNote.ended attempt (.ok snapshot) ∉ log := by
  intro noted
  have held := (turn.kept snapshot).mpr ⟨attempt, noted⟩
  rw [missing] at held
  cases held

theorem InTurn.kept_loaded (turn : state.InTurn log) (missing : state.manager.snapshot = none)
    {attempt : Nat} {snapshot : Snapshot} (other : Snapshot) :
    some snapshot = some other ↔ ∃ earlier,
      LoadNote.ended earlier (.ok other) ∈ log ++ [.ended attempt (.ok snapshot)] := by
  constructor
  · intro held
    cases held
    exact ⟨attempt, List.mem_append_right _ List.mem_cons_self⟩
  · rintro ⟨earlier, inside⟩
    rcases List.mem_append.mp inside with before | now
    · exact absurd before (turn.log_of_missing missing)
    · cases List.mem_singleton.mp now
      rfl

theorem InTurn.last_append (turn : state.InTurn log) (missing : state.manager.snapshot = none)
    (note : LoadNote) {before after : List LoadNote} {attempt : Nat} {snapshot : Snapshot}
    (split : log ++ [note] = before ++ .ended attempt (.ok snapshot) :: after) : after = [] := by
  rcases List.eq_nil_or_concat' after with none_left | ⟨earlier, final, rfl⟩
  · exact none_left
  · rw [← List.cons_append, ← List.append_assoc] at split
    have noted : LoadNote.ended attempt (.ok snapshot) ∈ log := by
      rw [List.append_inj_left' split rfl]
      exact List.mem_append_right _ List.mem_cons_self
    exact absurd noted (turn.log_of_missing missing)

/-- An acquisition goes on to a stage that fits, while the snapshot, the lock and the log stay. -/
theorem InTurn.of_stage (turn : state.InTurn log) {index : Nat} {old : AcquisitionStage}
    (stage : AcquisitionStage) (held : state.stages[index]? = some old)
    (unloading : state.lock ≠ some index) (fits : state.Fits index stage)
    (stages : next.stages = (state.advance index stage).stages)
    (snapshot : next.manager.snapshot = state.manager.snapshot) (lock : next.lock = state.lock) :
    next.InTurn log := by
  have onward {index : Nat} {stage : AcquisitionStage} (fits : state.Fits index stage) :
      next.Fits index stage :=
    fits.onward (fun locked => lock.trans locked) fun _ held => snapshot.trans held
  refine ⟨?_, ?_, ?_, ?_, turn.last⟩
  · exact fits_of_advance held stages (onward fits) fun other now _ at_stage =>
      onward (turn.fits other now at_stage)
  · intro other locked
    rw [lock] at locked
    have apart : other ≠ index := by
      rintro rfl
      exact unloading locked
    rw [stages, stage_advance held, if_neg apart]
    exact turn.locked other locked
  · intro locked
    rw [snapshot]
    exact turn.missing (lock ▸ locked)
  · intro held
    rw [snapshot]
    exact turn.kept held

theorem InTurn.missing_of_loading (turn : state.InTurn log) {index attempt : Nat}
    (held : state.stages[index]? = some (.loading attempt)) : state.manager.snapshot = none := by
  have locked : state.lock = some index := turn.fits index _ held
  exact turn.missing (by simp [locked])

/-- An acquisition that held the lock leaves it: what fits without a snapshot still fits. -/
theorem InTurn.of_unlock (turn : state.InTurn log) {index attempt : Nat}
    (stage : AcquisitionStage) (held : state.stages[index]? = some (.loading attempt))
    (fits : next.Fits index stage) (stages : next.stages = (state.advance index stage).stages)
    (lock : next.lock = none) {note : LoadNote}
    (kept : ∀ snapshot, next.manager.snapshot = some snapshot ↔
      ∃ attempt, LoadNote.ended attempt (.ok snapshot) ∈ log ++ [note]) :
    next.InTurn (log ++ [note]) := by
  have locked : state.lock = some index := turn.fits index _ held
  have missing := turn.missing_of_loading held
  refine ⟨?_, ?_, ?_, kept, ?_⟩
  · refine fits_of_advance held stages fits fun other now apart at_stage => ?_
    refine (turn.fits other now at_stage).onward (fun taken => ?_) fun snapshot held => ?_
    · exact absurd (Option.some.inj (taken.symm.trans locked)) apart
    · rw [missing] at held
      cases held
  · intro other taken
    rw [lock] at taken
    cases taken
  · intro taken
    exact absurd lock taken
  · exact fun _ _ _ _ split => turn.last_append missing note split

theorem InTurn.unlocked (turn : state.InTurn log) {index : Nat} {stage : AcquisitionStage}
    (held : state.stages[index]? = some stage) (resting : ∀ attempt, stage ≠ .loading attempt) :
    state.lock ≠ some index := by
  intro locked
  obtain ⟨attempt, loading⟩ := turn.locked index locked
  rw [held] at loading
  exact resting attempt (Option.some.inj loading)

theorem InTurn.of_arrival (turn : state.InTurn log) :
    ({ state with stages := state.stages ++ [.arriving] } : Acquisitions).InTurn log := by
  refine ⟨?_, ?_, turn.missing, turn.kept, turn.last⟩
  · intro index stage held
    rcases Nat.lt_or_ge index state.stages.length with inside | outside
    · rw [List.getElem?_append_left inside] at held
      exact turn.fits index stage held
    · rw [List.getElem?_append_right outside] at held
      cases List.mem_singleton.mp (List.mem_of_getElem? held)
      trivial
  · intro index locked
    obtain ⟨attempt, loading⟩ := turn.locked index locked
    obtain ⟨inside, _⟩ := List.getElem?_eq_some_iff.mp loading
    exact ⟨attempt, by rw [List.getElem?_append_left inside, loading]⟩

theorem InTurn.of_lock (turn : state.InTurn log) {index attempt : Nat} {old : AcquisitionStage}
    (held : state.stages[index]? = some old) (free : state.lock = none)
    (missing : state.manager.snapshot = none)
    (stages : next.stages = (state.advance index (.loading attempt)).stages)
    (snapshot : next.manager.snapshot = state.manager.snapshot) (lock : next.lock = some index) :
    next.InTurn (log ++ [.began attempt]) := by
  refine ⟨?_, ?_, fun _ => snapshot.trans missing, ?_, ?_⟩
  · refine fits_of_advance held stages lock fun other now _ at_stage => ?_
    refine (turn.fits other now at_stage).onward (fun taken => ?_) fun _ kept =>
      snapshot.trans kept
    cases free.symm.trans taken
  · intro other locked
    cases lock.symm.trans locked
    exact ⟨attempt, by rw [stages, stage_advance held, if_pos rfl]⟩
  · intro found
    rw [snapshot]
    simpa using turn.kept found
  · exact fun _ _ _ _ split => turn.last_append missing _ split

theorem moves_inTurn {event : AcquisitionEvent} (turn : state.InTurn log)
    (moves : state.Moves event next) : next.InTurn (log ++ state.loadNotes next event) := by
  cases moves with
  | arrives =>
      change InTurn _ (log ++ [])
      rw [List.append_nil]
      exact turn.of_arrival
  | @finds event index snapshot asks free held =>
      have quiet : state.loadNotes (state.advance index (.furnishing snapshot)) event = [] := by
        cases asks with
        | first stage => rfl
        | again stage => simp only [loadNotes, stage_advance stage, if_pos]
      rw [quiet, List.append_nil]
      have apart : state.lock ≠ some index := by simp [free]
      cases asks with
      | first stage => exact turn.of_stage (.furnishing snapshot) stage apart held rfl rfl rfl
      | again stage => exact turn.of_stage (.furnishing snapshot) stage apart held rfl rfl rfl
  | waits stage free missing =>
      change InTurn _ (log ++ [])
      rw [List.append_nil]
      exact turn.of_stage .waiting stage (by simp [free]) trivial rfl rfl rfl
  | @begins index stage free missing =>
      have noted : state.loadNotes { state.advance index (.loading state.manager.loads) with
          manager := { state.manager with loads := state.manager.loads + 1 }
          lock := some index } (.lock index) = [.began state.manager.loads] := by
        simp only [loadNotes, stage_advance stage, if_pos]
      rw [noted]
      exact turn.of_lock stage free missing rfl rfl rfl
  | @loads index attempt snapshot stage yields =>
      have noted : state.loadNotes { state.advance index (.furnishing snapshot) with
          manager := { state.manager with snapshot := some snapshot }
          lock := none } (.loaded index) = [.ended attempt (.ok snapshot)] := by
        simp only [loadNotes, stage, yields]
      rw [noted]
      refine turn.of_unlock (.furnishing snapshot) stage ?_ ?_ ?_ ?_
      · rfl
      · rfl
      · rfl
      exact turn.kept_loaded (turn.missing_of_loading stage)
  | @fails index attempt failure stage yields =>
      have noted : state.loadNotes { state.advance index (.finished (.error failure)) with
          lock := none } (.loaded index) = [.ended attempt (.error failure)] := by
        simp only [loadNotes, stage, yields]
      rw [noted]
      refine turn.of_unlock (.finished (.error failure)) stage trivial ?_ ?_ ?_
      · rfl
      · rfl
      intro other
      simpa [advance] using turn.kept other
  | @furnishes index snapshot stage =>
      change InTurn _ (log ++ [])
      rw [List.append_nil]
      refine turn.of_stage (.finished (state.manager.furnish snapshot).2) stage
        (turn.unlocked stage (by simp)) ?_ rfl rfl rfl
      have held : state.manager.snapshot = some snapshot := turn.fits index _ stage
      unfold Manager.furnish
      cases state.manager.backend.create state.manager.options state.manager.services with
      | error failure => trivial
      | ok service => exact held
  | releases =>
      change InTurn _ (log ++ [])
      rwa [List.append_nil]

end Step

theorem run_inTurn {log : List LoadNote} (events : List AcquisitionEvent)
    (turn : state.InTurn log) (ran : state.run events = some next) :
    next.InTurn (log ++ state.loadLog events) := by
  induction events generalizing state log with
  | nil =>
      cases ran
      rwa [loadLog, List.append_nil]
  | cons event rest ih =>
      obtain ⟨middle, stepped, later⟩ := Option.bind_eq_some_iff.mp ran
      rw [loadLog, stepped, ← List.append_assoc]
      exact ih (moves_inTurn turn (step_moves stepped)) later

theorem run_source (events : List AcquisitionEvent) (ran : state.run events = some next) :
    next.manager.source = state.manager.source := by
  induction events generalizing state with
  | nil =>
      cases ran
      rfl
  | cons event rest ih =>
      obtain ⟨middle, stepped, later⟩ := Option.bind_eq_some_iff.mp ran
      have kept : middle.manager.source = state.manager.source := by
        cases step_moves stepped <;> rfl
      exact (ih later).trans kept

/-- Once there is a snapshot no event changes it, and making services or taking sandboxes back
never does. -/
theorem step_keeps_snapshot {log : List LoadNote} (turn : state.InTurn log)
    {event : AcquisitionEvent} (stepped : state.step event = some next)
    (settled : state.manager.isInitialized = true ∨ (∃ index, event = .furnish index) ∨
      ∃ env, event = .release env) :
    next.manager.snapshot = state.manager.snapshot := by
  cases step_moves stepped with
  | loads stage yields =>
      have missing := turn.missing_of_loading stage
      rcases settled with initialized | ⟨_, other⟩ | ⟨_, other⟩
      · rw [Manager.isInitialized, missing] at initialized
        cases initialized
      · cases other
      · cases other
  | arrives => rfl
  | finds => rfl
  | waits => rfl
  | begins => rfl
  | fails => rfl
  | furnishes => rfl
  | releases => rfl

theorem step_failing {index attempt : Nat} {failure : Failure}
    (stage : state.stages[index]? = some (.loading attempt))
    (fails : state.manager.source.load attempt = .error failure) :
    ∃ next, state.step (.loaded index) = some next ∧
      next.stages[index]? = some (.finished (.error failure)) ∧
      next.manager = state.manager ∧ next.lock = none := by
  refine ⟨{ state.advance index (.finished (.error failure)) with lock := none }, ?_, ?_, rfl, rfl⟩
  · simp only [step, stage, Manager.endLoad, fails]
    rfl
  · rw [stage_advance stage, if_pos rfl]

/-- As long as there is no snapshot, an acquisition that finds the lock free goes on to a load. -/
theorem step_toward_load (missing : state.manager.snapshot = none) (free : state.lock = none)
    (index : Nat) :
    (state.stages[index]? = some .arriving → ∃ next, state.step (.look index) = some next ∧
        next.stages[index]? = some .waiting ∧ next.manager = state.manager ∧ next.lock = none) ∧
      (state.stages[index]? = some .waiting → ∃ next, state.step (.lock index) = some next ∧
        next.stages[index]? = some (.loading state.manager.loads)) := by
  constructor
  · intro stage
    refine ⟨state.advance index .waiting, ?_, ?_, rfl, free⟩
    · simp only [step, stage, free, missing]
    · rw [stage_advance stage, if_pos rfl]
  · intro stage
    refine ⟨{ state.advance index (.loading state.manager.loads) with
      manager := { state.manager with loads := state.manager.loads + 1 }
      lock := some index }, ?_, ?_⟩
    · simp only [step, stage, free, missing, Manager.beginLoad]
    · rw [stage_advance stage, if_pos rfl]

/-- In every run of acquisitions of a manager, however they overlap and whichever loads and services
fail: at most one load runs at a time, and a load that succeeds is the last of all; the manager is
initialized exactly if there was one; all sandboxes that are handed out are over its snapshot, which
nothing changes any more. An acquisition whose load fails ends with that failure and leaves the
manager without a snapshot and the lock free, and then those that ask next load again. -/
theorem loads_of_run {source : DeclarationSource} {backend : Backend} {options : CompilerOptions}
    {events : List AcquisitionEvent} {state : Acquisitions}
    (ran : (initial (.create source backend options)).run events = some state) :
    let log := (initial (.create source backend options)).loadLog events
    (∀ index index' attempt attempt' : Nat, state.stages[index]? = some (.loading attempt) →
        state.stages[index']? = some (.loading attempt') → index' = index) ∧
      (∀ before attempt snapshot after, log = before ++ .ended attempt (.ok snapshot) :: after →
        after = []) ∧
      (state.manager.isInitialized = true ↔
        ∃ attempt snapshot, LoadNote.ended attempt (.ok snapshot) ∈ log) ∧
      (∀ (index : Nat) (env : Environment), state.stages[index]? = some (.finished (.ok env)) →
        state.manager.snapshot = some env.files.snapshot ∧
          ∃ before attempt, log = before ++ [.ended attempt (.ok env.files.snapshot)]) ∧
      (∀ (index attempt : Nat) (failure : Failure),
        state.stages[index]? = some (.loading attempt) →
        source.load attempt = .error failure → ∃ next, state.step (.loaded index) = some next ∧
          next.stages[index]? = some (.finished (.error failure)) ∧
          next.manager.isInitialized = false ∧ next.lock = none) ∧
      (state.manager.isInitialized = false → state.lock = none → ∀ index : Nat,
        (state.stages[index]? = some .arriving → ∃ next, state.step (.look index) = some next ∧
          next.stages[index]? = some .waiting ∧ next.manager = state.manager ∧ next.lock = none) ∧
        (state.stages[index]? = some .waiting → ∃ next, state.step (.lock index) = some next ∧
          next.stages[index]? = some (.loading state.manager.loads))) ∧
      ∀ event next, state.step event = some next →
        (state.manager.isInitialized = true ∨ (∃ index, event = .furnish index) ∨
          ∃ env, event = .release env) →
        next.manager.snapshot = state.manager.snapshot := by
  intro log
  have turn : state.InTurn log := run_inTurn events (start_inTurn source backend options) ran
  refine ⟨?_, turn.last, ?_, ?_, ?_, ?_, fun _ _ stepped => step_keeps_snapshot turn stepped⟩
  · intro index index' attempt attempt' stage stage'
    have locked : state.lock = some index := turn.fits index _ stage
    have locked' : state.lock = some index' := turn.fits index' _ stage'
    rw [locked] at locked'
    exact (Option.some.inj locked').symm
  · rw [Manager.isInitialized, Option.isSome_iff_exists]
    constructor
    · rintro ⟨snapshot, held⟩
      obtain ⟨attempt, noted⟩ := (turn.kept snapshot).mp held
      exact ⟨attempt, snapshot, noted⟩
    · rintro ⟨attempt, snapshot, noted⟩
      exact ⟨snapshot, (turn.kept snapshot).mpr ⟨attempt, noted⟩⟩
  · intro index env stage
    have held : state.manager.snapshot = some env.files.snapshot := turn.fits index _ stage
    obtain ⟨attempt, noted⟩ := (turn.kept _).mp held
    obtain ⟨before, after, split⟩ := List.append_of_mem noted
    rw [turn.last before attempt _ after split] at split
    exact ⟨held, before, attempt, split⟩
  · intro index attempt failure stage fails
    have kept : state.manager.source = source := run_source events ran
    obtain ⟨next, stepped, finished, manager, free⟩ :=
      step_failing stage ((congrArg (fun held => held.load attempt) kept).trans fails)
    refine ⟨next, stepped, finished, ?_, free⟩
    rw [manager, Manager.isInitialized, turn.missing_of_loading stage]
    rfl
  · intro uninitialized free index
    have missing : state.manager.snapshot = none :=
      Option.isNone_iff_eq_none.mp (Option.isSome_eq_false_iff.mp uninitialized)
    exact step_toward_load missing free index

/-- Two acquisitions overlap. The first one's load fails, the second one loads again; a third finds
the snapshot, but gets no service. -/
theorem second_load_after_failure :
    let source : DeclarationSource :=
      ⟨fun attempt => if attempt = 0 then .error (.declarationLoad "offline") else .ok .empty⟩
    let backend : Backend :=
      ⟨fun _ count => if count = 0 then .ok (.reporting []) else .error (.sandbox "no service")⟩
    let start : Acquisitions := initial (.create source backend ⟨.es5⟩)
    ∃ state, start.run [.arrive, .arrive, .look 0, .look 1, .lock 0, .loaded 0, .lock 1, .loaded 1,
        .furnish 1, .arrive, .look 2, .furnish 2] = some state ∧
      state.manager.isInitialized = true ∧
      state.stages[0]? = some (.finished (.error (.declarationLoad "offline"))) ∧
      (∃ env, state.stages[1]? = some (.finished (.ok env)) ∧
        state.manager.snapshot = some env.files.snapshot) ∧
      state.stages[2]? = some (.finished (.error (.sandbox "no service"))) := by
  intro source backend start
  obtain ⟨state, ran⟩ : ∃ state, start.run [.arrive, .arrive, .look 0, .look 1, .lock 0, .loaded 0,
      .lock 1, .loaded 1, .furnish 1, .arrive, .look 2, .furnish 2] = some state := ⟨_, rfl⟩
  obtain ⟨_, _, initialized, same, _⟩ := loads_of_run ran
  refine ⟨state, ran, initialized.mpr ⟨1, .empty, ?_⟩, ?_, ?_⟩
  · exact List.mem_cons_of_mem _ (List.mem_cons_of_mem _ (List.mem_cons_of_mem _
      List.mem_cons_self))
  · cases ran
    rfl
  · obtain ⟨env, stage⟩ : ∃ env, state.stages[1]? = some (.finished (.ok env)) := by
      cases ran
      exact ⟨_, rfl⟩
    refine ⟨⟨env, stage, (same 1 env stage).1⟩, ?_⟩
    cases ran
    rfl

end StrategyDesk.Acquisitions
