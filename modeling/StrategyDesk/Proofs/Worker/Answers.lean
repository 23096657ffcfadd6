import StrategyDesk.Proofs.Worker.Displayed
import StrategyDesk.Proofs.Worker.Numbering

/-!
# What the validator answered

The ledger of a run holds the answers that its calls brought, each with the content of its call. The
latest request is found valid exactly if the ledger holds a success for it, and the latest content
of the host is known to the pipeline or still among the commands.
-/

set_option autoImplicit false

namespace StrategyDesk

/-- The result of a call for a content. -/
structure Answer where
  number : Nat
  content : Text
  result : Except Failure Outcome

def Command.latest (fed : Option Feed) : List Command → Option Feed
  | [] => fed
  | .content text localError :: rest => latest (some ⟨text, localError⟩) rest
  | .flush _ :: rest => latest fed rest

theorem Command.latest_append (fed : Option Feed) (first second : List Command) :
    latest fed (first ++ second) = latest (latest fed first) second := by
  induction first generalizing fed with
  | nil => rfl
  | cons command rest ih => cases command <;> exact ih _

namespace Worker

def answer? (worker : Worker) : Event → Option Answer
  | .ended number (.answered result) =>
      (worker.calls.find? fun call => call.number == number).map fun call =>
        ⟨number, call.content, result⟩
  | _ => none

theorem answer?_of_calling {worker : Worker} {number : Nat} (calling : worker.Calling number)
    (result : Except Failure Outcome) :
    ∃ call ∈ worker.calls, call.number = number ∧
      worker.answer? (.ended number (.answered result)) =
        some ⟨number, call.content, result⟩ := by
  cases found : worker.calls.find? fun call => call.number == number with
  | none =>
      obtain ⟨call, member, same⟩ := calling
      have different := List.find?_eq_none.mp found call member
      exact absurd (beq_iff_eq.mpr same) different
  | some call =>
      have same := List.find?_some found
      rw [beq_iff_eq] at same
      refine ⟨call, List.mem_of_find?_eq_some found, same, ?_⟩
      simp only [answer?, found, Option.map_some]

theorem verdictOf_eq_valid {result : Except Failure Outcome} :
    verdictOf result = .valid ↔ result = .ok .success := by
  rcases result with failure | outcome
  · simp [verdictOf]
  · cases outcome <;> simp [verdictOf, Outcome.verdict]

/-- The ledger holds answers of calls that have ended, and its successes are the valid verdicts. -/
structure Recorded (worker : Worker) (ledger : List Answer) : Prop where
  issued : ∀ answer ∈ ledger, answer.number < worker.pipeline.nextNumber
  ended : ∀ answer ∈ ledger, ∀ call ∈ worker.calls, call.number ≠ answer.number
  valid : ∀ issued, worker.pipeline.lastIssued = some issued →
    (issued.verdict = some .valid ↔ ⟨issued.number, issued.content, .ok .success⟩ ∈ ledger)

theorem Recorded.of_fewer_calls {worker next : Worker} {ledger : List Answer}
    (recorded : worker.Recorded ledger) (calls : next.calls.Sublist worker.calls)
    (last : next.pipeline.lastIssued = worker.pipeline.lastIssued)
    (number : next.pipeline.nextNumber = worker.pipeline.nextNumber) :
    next.Recorded ledger where
  issued answer member := by
    rw [number]
    exact recorded.issued answer member
  ended answer member call among := recorded.ended answer member call (calls.mem among)
  valid issued found := recorded.valid issued (last ▸ found)

theorem sends_recorded {worker next : Worker} {ledger : List Answer}
    (recorded : worker.Recorded ledger) (sends : Sends worker next) : next.Recorded ledger := by
  cases sends with
  | nothing empty pipeline calls =>
      exact recorded.of_fewer_calls (calls ▸ .refl _) (by rw [pipeline]) (by rw [pipeline])
  | request pending waits pipeline calls =>
      refine ⟨?_, ?_, ?_⟩
      · intro answer member
        rw [pipeline]
        exact Nat.lt_succ_of_lt (recorded.issued answer member)
      · intro answer member call among
        rw [calls] at among
        rcases List.mem_append.mp among with old | new
        · obtain ⟨before, known, rfl⟩ := List.mem_map.mp old
          exact recorded.ended answer member before known
        · rw [List.mem_singleton.mp new]
          exact Nat.ne_of_gt (recorded.issued answer member)
      · intro issued found
        rw [pipeline] at found
        cases found
        constructor
        · intro valid
          cases valid
        · intro member
          exact absurd (recorded.issued _ member) (Nat.lt_irrefl _)

theorem Recorded.of_failure {worker next : Worker} {ledger : List Answer} {issued : Issued}
    (recorded : worker.Recorded ledger) (last : worker.pipeline.lastIssued = some issued)
    (isOpen : issued.verdict = none) (calls : next.calls.Sublist worker.calls)
    (pipeline : next.pipeline = worker.pipeline.record issued .failed) :
    next.Recorded ledger where
  issued answer member := by
    rw [pipeline]
    exact recorded.issued answer member
  ended answer member call among := recorded.ended answer member call (calls.mem among)
  valid other found := by
    rw [pipeline] at found
    cases found
    have unanswered := mt (recorded.valid issued last).mpr (by simp [isOpen])
    simpa using unanswered

/-- An answer goes into the ledger, and if it counts its verdict goes to the latest request. -/
theorem answered_recorded {worker next : Worker} {ledger : List Answer} {call : Call}
    {result : Except Failure Outcome} (numbered : worker.Numbered)
    (recorded : worker.Recorded ledger) (among : call ∈ worker.calls)
    (calls : next.calls = worker.otherCalls call.number)
    (pipeline : next.pipeline =
      (worker.pipeline.settle call.number (verdictOf result)).1) :
    next.Recorded (ledger ++ [⟨call.number, call.content, result⟩]) := by
  have fewer : ∀ other ∈ next.calls, other ∈ worker.calls ∧ other.number ≠ call.number := by
    intro other member
    rw [calls] at member
    exact mem_otherCalls.mp member
  have number : next.pipeline.nextNumber = worker.pipeline.nextNumber := by
    rw [pipeline]
    exact (Pipeline.settle_upcoming _ _ _).2
  refine ⟨?_, ?_, ?_⟩
  · intro answer member
    rw [number]
    rcases List.mem_append.mp member with old | new
    · exact recorded.issued answer old
    · rw [List.mem_singleton.mp new]
      exact numbered.calls_lt call among
  · intro answer member other others
    rcases List.mem_append.mp member with old | new
    · exact recorded.ended answer old other (fewer other others).1
    · rw [List.mem_singleton.mp new]
      exact (fewer other others).2
  · intro issued found
    simp only [List.mem_append, List.mem_singleton]
    rcases worker.pipeline.settle_cases call.number (verdictOf result) with
      dropped | ⟨before, last, same, _, settled⟩
    · rw [pipeline, dropped] at found
      rw [recorded.valid issued found]
      refine (or_iff_left ?_).symm
      -- A call with the number of the latest request finds it open, so its answer counts.
      intro newest
      obtain ⟨same, _⟩ := Answer.mk.inj newest
      obtain ⟨_, isOpen⟩ := numbered.latest_call issued found call among same.symm
      exact Pipeline.not_open_of_dropped dropped found same isOpen
    · obtain ⟨content, _⟩ := numbered.latest_call before last call among same.symm
      rw [pipeline, settled] at found
      cases found
      have old : ⟨before.number, before.content, .ok .success⟩ ∉ ledger := by
        intro member
        exact recorded.ended _ member call among same.symm
      constructor
      · intro valid
        have success := verdictOf_eq_valid.mp (Option.some.inj valid)
        exact Or.inr (by rw [same, content, success])
      · rintro (earlier | newest)
        · exact absurd earlier old
        · obtain ⟨_, _, success⟩ := Answer.mk.inj newest
          rw [← success]
          rfl

theorem transition_recorded {worker next : Worker} {display shown : Display} {event : Event}
    {ledger : List Answer} (numbered : worker.Numbered) (recorded : worker.Recorded ledger)
    (transition : Transition worker display next shown event) :
    next.Recorded (ledger ++ (worker.answer? event).toList) := by
  cases transition with
  | content text localError now taken calls pipeline effect =>
      obtain ⟨last, number⟩ :=
        Pipeline.onContent_requests worker.pipeline text localError now
      simpa [answer?] using recorded.of_fewer_calls (calls ▸ .refl _) (by rw [pipeline, last])
        (by rw [pipeline, number])
  | flush waiter now taken sends effect =>
      simpa [answer?] using sends_recorded recorded sends
  | expiry now queue due sends effect =>
      simpa [answer?] using sends_recorded recorded sends
  | answered number result calling queue calls pipeline effect =>
      obtain ⟨call, among, rfl, answer⟩ := answer?_of_calling calling result
      rw [answer]
      exact answered_recorded numbered recorded among calls pipeline
  | cancelled number calling queue calls pipeline effect =>
      simpa [answer?] using recorded.of_fewer_calls (calls ▸ otherCalls_sublist worker number)
        (by rw [pipeline]) (by rw [pipeline])
  | crashed number reason calling queue calls pipeline effect =>
      have fewer : next.calls.Sublist worker.calls := calls ▸ otherCalls_sublist worker number
      rw [show worker.answer? (.ended number (.crashed reason)) = none from rfl,
        Option.toList_none, List.append_nil]
      rcases crashed_cases pipeline with same | ⟨issued, last, isOpen, _, failed⟩
      · exact recorded.of_fewer_calls fewer (by rw [same]) (by rw [same])
      · exact recorded.of_failure last isOpen fewer failed

/-! ## Everything a worker knows -/

structure Informed (worker : Worker) (display : Display) (latest : Option Feed)
    (ledger : List Answer) : Prop where
  numbered : worker.Numbered
  recorded : worker.Recorded ledger
  displayed : worker.Displayed display
  current : ∃ fed, worker.pipeline.GateFaithful fed ∧ Command.latest fed worker.queue = latest

theorem start_informed (window : Nat) {view : View} (standing : view.destroyed = false)
    (clear : view.validatorFindings = []) :
    (start window).Informed ⟨view, .quiet, []⟩ none [] where
  numbered := start_numbered window
  recorded := ⟨by simp, by simp, fun issued last => by cases last⟩
  displayed := ⟨standing, rfl, rfl, fun _ => clear⟩
  current := ⟨none, Pipeline.start_faithful window, rfl⟩

theorem submit_informed {worker : Worker} {display : Display} {latest : Option Feed}
    {ledger : List Answer} (command : Command)
    (informed : worker.Informed display latest ledger) :
    (worker.submit command).Informed display (Command.latest latest [command]) ledger where
  numbered := submit_numbered command informed.numbered
  recorded := ⟨informed.recorded.issued, informed.recorded.ended, informed.recorded.valid⟩
  displayed := ⟨informed.displayed.standing, informed.displayed.flag,
    informed.displayed.published, informed.displayed.cleared⟩
  current := by
    obtain ⟨fed, faithful, known⟩ := informed.current
    refine ⟨fed, faithful, ?_⟩
    rw [show (worker.submit command).queue = worker.queue ++ [command] from rfl,
      Command.latest_append, known]

theorem byHost_informed {worker : Worker} {display : Display} {latest : Option Feed}
    {ledger : List Answer} (act : HostAct) (informed : worker.Informed display latest ledger) :
    worker.Informed (display.byHost act) latest ledger :=
  ⟨informed.numbered, informed.recorded, byHost_displayed act informed.displayed,
    informed.current⟩

theorem sends_faithful {worker next : Worker} {fed : Option Feed}
    (faithful : worker.pipeline.GateFaithful fed) (sends : Sends worker next) :
    next.pipeline.GateFaithful fed := by
  cases sends with
  | nothing empty pipeline calls =>
      rw [pipeline]
      exact faithful
  | request pending waits pipeline calls =>
      have fired := Pipeline.fireNow_faithful faithful
      rw [Pipeline.fireNow_of_some waits] at fired
      rw [pipeline]
      exact fired

theorem transition_current {worker next : Worker} {display shown : Display} {event : Event}
    {fed : Option Feed} (faithful : worker.pipeline.GateFaithful fed)
    (transition : Transition worker display next shown event) :
    ∃ after, next.pipeline.GateFaithful after ∧
      Command.latest after next.queue = Command.latest fed worker.queue := by
  cases transition with
  | content text localError now taken calls pipeline effect =>
      refine ⟨some ⟨text, localError⟩, ?_, by rw [taken]; rfl⟩
      rw [pipeline]
      exact Pipeline.onContent_faithful text localError now faithful
  | flush waiter now taken sends effect =>
      exact ⟨fed, sends_faithful faithful sends, by rw [taken]; rfl⟩
  | expiry now queue due sends effect =>
      exact ⟨fed, sends_faithful faithful sends, by rw [queue]⟩
  | answered number result calling queue calls pipeline effect =>
      refine ⟨fed, ?_, by rw [queue]⟩
      rw [pipeline]
      exact Pipeline.settle_faithful number (verdictOf result) faithful
  | cancelled number calling queue calls pipeline effect =>
      exact ⟨fed, by rw [pipeline]; exact faithful, by rw [queue]⟩
  | crashed number reason calling queue calls pipeline effect =>
      refine ⟨fed, ?_, by rw [queue]⟩
      rw [pipeline]
      split
      · exact Pipeline.abandon_faithful faithful
      · exact faithful

theorem step_informed {worker next : Worker} {display shown : Display} {event : Event}
    {latest : Option Feed} {ledger : List Answer}
    (informed : worker.Informed display latest ledger)
    (run : worker.step display event = some (next, shown)) :
    next.Informed shown latest (ledger ++ (worker.answer? event).toList) := by
  have transition := step_transition run
  obtain ⟨fed, faithful, known⟩ := informed.current
  obtain ⟨after, stillFaithful, same⟩ := transition_current faithful transition
  exact ⟨transition_numbered informed.numbered transition,
    transition_recorded informed.numbered informed.recorded transition,
    transition_displayed informed.displayed transition, after, stillFaithful, same.trans known⟩

end Worker

end StrategyDesk
