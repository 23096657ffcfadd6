import StrategyDesk.Proofs.Pipeline.Gate
import StrategyDesk.Validation.Worker

/-!
# Runs of a worker

A worker meets events while its host submits commands and changes the display that they share, in
any order. This module names these moves, and states everything that one event may do, so that what
holds of every run can be proved one kind of event at a time.
-/

set_option autoImplicit false

namespace StrategyDesk

/-- What the host does to the display that it shares with a worker. -/
inductive HostAct where
  | transact (transaction : Transaction)
  | publish (findings : List Diagnostic)
  | flag (value : Bool)
  | collect
deriving DecidableEq, Repr

/-- The display after an act of the host. A transaction that the view refuses changes nothing. -/
def Display.byHost (display : Display) : HostAct → Display
  | .transact transaction =>
      match display.view.dispatch transaction with
      | .ok (view, _) => { display with view }
      | .error _ => display
  | .publish findings => display.publish .sandbox findings
  | .flag value => display.setSandbox value
  | .collect => { display with failures := [] }

namespace Worker

inductive Move where
  | submit (command : Command)
  | host (act : HostAct)
  | meet (event : Event)

def move (worker : Worker) (display : Display) : Move → Option (Worker × Display)
  | .submit command => some (worker.submit command, display)
  | .host act => some (worker, display.byHost act)
  | .meet event => worker.step display event

def play (worker : Worker) (display : Display) : List Move → Option (Worker × Display)
  | [] => some (worker, display)
  | move :: rest => do
      let (next, shown) ← worker.move display move
      next.play shown rest

/-! ## What an event may do -/

def otherCalls (worker : Worker) (number : Nat) : List Call :=
  worker.calls.filter fun call => call.number != number

/-- Whether a call of that number has not ended yet. -/
def Calling (worker : Worker) (number : Nat) : Prop :=
  ∃ call ∈ worker.calls, call.number = number

/-- What waits in the pipeline, if anything does, goes out as a call that supersedes the others. -/
inductive Sends (worker next : Worker) : Prop where
  | nothing (empty : worker.pipeline.pending = none)
      (pipeline : next.pipeline = worker.pipeline) (calls : next.calls = worker.calls)
  | request (pending : Pending) (waits : worker.pipeline.pending = some pending)
      (pipeline : next.pipeline = worker.pipeline.issue pending)
      (calls : next.calls = (worker.calls.map fun call => { call with aborted := true }) ++
        [⟨worker.pipeline.nextNumber, pending.content, false⟩])

/-- What an event may do to the pipeline, the commands, the calls and the display. Who waits and who
was told is left open. -/
inductive Transition (worker : Worker) (display : Display) (next : Worker) (shown : Display) :
    Event → Prop where
  | content (text : Text) (localError : Bool) (now : Nat)
      (taken : worker.queue = .content text localError :: next.queue)
      (calls : next.calls = worker.calls)
      (pipeline : next.pipeline = (worker.pipeline.onContent text localError now).1)
      (effect : shown = display.setValidator next.pipeline.gate) :
      Transition worker display next shown (.command now)
  | flush (waiter now : Nat) (taken : worker.queue = .flush waiter :: next.queue)
      (sends : Sends worker next) (effect : shown = display) :
      Transition worker display next shown (.command now)
  | expiry (now : Nat) (queue : next.queue = worker.queue)
      (due : worker.pipeline.pending ≠ none) (sends : Sends worker next)
      (effect : shown = display) :
      Transition worker display next shown (.expiry now)
  | answered (number : Nat) (result : Except Failure Outcome)
      (calling : worker.Calling number) (queue : next.queue = worker.queue)
      (calls : next.calls = worker.otherCalls number)
      (pipeline : next.pipeline = (worker.pipeline.settle number (verdictOf result)).1)
      (effect : shown =
        if (worker.pipeline.settle number (verdictOf result)).2 then
          (display.showResult result).setValidator next.pipeline.gate
        else display) :
      Transition worker display next shown (.ended number (.answered result))
  | cancelled (number : Nat) (calling : worker.Calling number)
      (queue : next.queue = worker.queue) (calls : next.calls = worker.otherCalls number)
      (pipeline : next.pipeline = worker.pipeline) (effect : shown = display) :
      Transition worker display next shown (.ended number .cancelled)
  | crashed (number : Nat) (reason : String) (calling : worker.Calling number)
      (queue : next.queue = worker.queue) (calls : next.calls = worker.otherCalls number)
      (pipeline : next.pipeline =
        if (worker.otherCalls number).isEmpty then worker.pipeline.abandon
        else worker.pipeline)
      (effect : shown = display.report (.internal s!"validation task failed: {reason}")) :
      Transition worker display next shown (.ended number (.crashed reason))

/-- The death of a call leaves the pipeline as it was, or it was the last call and the open request
fails with it. -/
theorem crashed_cases {worker next : Worker} {number : Nat}
    (pipeline : next.pipeline =
      if (worker.otherCalls number).isEmpty then worker.pipeline.abandon else worker.pipeline) :
    next.pipeline = worker.pipeline ∨
      ∃ issued, worker.pipeline.lastIssued = some issued ∧ issued.verdict = none ∧
        worker.otherCalls number = [] ∧
        next.pipeline = worker.pipeline.record issued .failed := by
  split at pipeline
  next empty =>
    rcases worker.pipeline.abandon_eq with same | ⟨issued, last, isOpen, recorded⟩
    · exact Or.inl (pipeline.trans same)
    · exact Or.inr
        ⟨issued, last, isOpen, List.isEmpty_iff.mp empty, pipeline.trans recorded⟩
  · exact Or.inl pipeline

@[simp] theorem notify_pipeline (worker : Worker) : worker.notify.pipeline = worker.pipeline := by
  unfold notify
  split <;> rfl

@[simp] theorem notify_queue (worker : Worker) : worker.notify.queue = worker.queue := by
  unfold notify
  split <;> rfl

@[simp] theorem notify_calls (worker : Worker) : worker.notify.calls = worker.calls := by
  unfold notify
  split <;> rfl

@[simp] theorem send_pipeline (worker : Worker) (dispatch? : Option Dispatch) :
    (worker.send dispatch?).pipeline = worker.pipeline := by
  cases dispatch? <;> rfl

@[simp] theorem send_queue (worker : Worker) (dispatch? : Option Dispatch) :
    (worker.send dispatch?).queue = worker.queue := by
  cases dispatch? <;> rfl

theorem send_calls_congr {worker other : Worker} (same : worker.calls = other.calls)
    (dispatch? : Option Dispatch) :
    (worker.send dispatch?).calls = (other.send dispatch?).calls := by
  cases dispatch? with
  | none => exact same
  | some dispatch => simp only [send, same]

theorem sends_of_fireNow {worker next : Worker}
    (pipeline : next.pipeline = worker.pipeline.fireNow.1)
    (calls : next.calls = (worker.send worker.pipeline.fireNow.2).calls) : Sends worker next := by
  cases waits : worker.pipeline.pending with
  | none =>
      rw [Pipeline.fireNow_of_none waits] at pipeline calls
      exact .nothing waits pipeline calls
  | some pending =>
      rw [Pipeline.fireNow_of_some waits] at pipeline calls
      exact .request pending waits pipeline calls

theorem step_command {worker next : Worker} {display shown : Display} {now : Nat}
    (run : worker.step display (.command now) = some (next, shown)) :
    Transition worker display next shown (.command now) := by
  simp only [step] at run
  cases queued : worker.queue with
  | nil => simp [queued] at run
  | cons command rest =>
      cases command with
      | content text localError =>
          simp only [queued, handle, Option.some.injEq, Prod.mk.injEq] at run
          obtain ⟨rfl, rfl⟩ := run
          exact .content text localError now (by simp [queued]) (by simp) (by simp) (by simp)
      | flush waiter =>
          simp only [queued, handle, Option.some.injEq, Prod.mk.injEq] at run
          obtain ⟨rfl, rfl⟩ := run
          refine .flush waiter now (by simp [queued]) (sends_of_fireNow (by simp) ?_) rfl
          rw [notify_calls]
          exact send_calls_congr (by rfl) _

theorem step_expiry {worker next : Worker} {display shown : Display} {now : Nat}
    (run : worker.step display (.expiry now) = some (next, shown)) :
    Transition worker display next shown (.expiry now) := by
  cases waits : worker.pipeline.pending with
  | none => simp [step, Pipeline.deadline?, waits] at run
  | some pending =>
      simp only [step, Pipeline.deadline?, waits, Option.map_some] at run
      split at run
      next due =>
        have fires := Pipeline.pollDue_of_due waits due
        simp only [expire, fires, Option.some.injEq, Prod.mk.injEq] at run
        obtain ⟨rfl, rfl⟩ := run
        refine .expiry now (by simp) (by simp [waits]) (sends_of_fireNow (by simp) ?_) rfl
        rw [notify_calls]
        exact send_calls_congr (by rfl) _
      · cases run

theorem calling_of_mayEnd {worker : Worker} {number : Nat} {ending : Ending}
    (possible : worker.mayEnd number ending = true) : worker.Calling number := by
  have among : (worker.calls.any fun call => call.number == number) = true := by
    cases ending with
    | answered result => exact possible
    | crashed reason => exact possible
    | cancelled =>
        obtain ⟨call, member, found⟩ := List.any_eq_true.mp possible
        exact List.any_eq_true.mpr ⟨call, member, (Bool.and_eq_true _ _ ▸ found).1⟩
  obtain ⟨call, member, found⟩ := List.any_eq_true.mp among
  exact ⟨call, member, beq_iff_eq.mp found⟩

theorem step_ended {worker next : Worker} {display shown : Display} {number : Nat}
    {ending : Ending} (run : worker.step display (.ended number ending) = some (next, shown)) :
    Transition worker display next shown (.ended number ending) := by
  simp only [step] at run
  split at run
  next possible =>
    have calling := calling_of_mayEnd possible
    simp only [Option.some.injEq, Prod.mk.injEq] at run
    obtain ⟨rfl, rfl⟩ := run
    cases ending with
    | cancelled =>
        exact .cancelled number calling (by simp [reap]) (by simp [reap, otherCalls])
          (by simp [reap]) (by simp [reap])
    | crashed reason =>
        exact .crashed number reason calling (by simp [reap, bury])
          (by simp [reap, bury, otherCalls]) (by simp [reap, bury, otherCalls])
          (by simp [reap, bury])
    | answered result =>
        rcases worker.pipeline.settle_cases number (verdictOf result) with
          settled | ⟨issued, _, _, _, settled⟩
        · exact .answered number result calling (by simp [reap, settle, settled])
            (by simp [reap, settle, settled, otherCalls]) (by simp [reap, settle, settled])
            (by simp [reap, settle, settled])
        · exact .answered number result calling (by simp [reap, settle, settled])
            (by simp [reap, settle, settled, otherCalls]) (by simp [reap, settle, settled])
            (by simp [reap, settle, settled])
  · cases run

/-- Every step is one of the transitions. -/
theorem step_transition {worker next : Worker} {display shown : Display} {event : Event}
    (run : worker.step display event = some (next, shown)) :
    Transition worker display next shown event := by
  cases event with
  | command now => exact step_command run
  | expiry now => exact step_expiry run
  | ended number ending => exact step_ended run

end Worker

end StrategyDesk
