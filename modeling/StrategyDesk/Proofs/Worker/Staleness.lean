import StrategyDesk.Proofs.Worker.Numbering

/-!
# Results that come too late

A request may be superseded while its call is under way, and the call may still end in any way. Only
an end that speaks for the latest request can put a verdict to the pipeline that counts. The numbers
of the requests whose verdicts count increase over a run, and the end of a superseded call changes
neither the gate nor the error signals nor the view.
-/

set_option autoImplicit false

namespace StrategyDesk

/-- The latest request, as long as it has no verdict. -/
def Pipeline.openRequest? (pipeline : Pipeline) : Option Issued :=
  pipeline.lastIssued.filter fun issued => issued.verdict.isNone

theorem Pipeline.abandon_eq_settle (pipeline : Pipeline) :
    pipeline.abandon = pipeline.openRequest?.elim pipeline fun issued =>
      (pipeline.settle issued.number .failed).1 := by
  unfold abandon openRequest?
  cases last : pipeline.lastIssued with
  | none => rfl
  | some issued => cases isOpen : issued.verdict <;> simp [Option.filter, isOpen]

namespace Worker

/-- The verdict that an event puts to the pipeline, after the number of the request it is on. A call
that died speaks for the open request, if no other call is left. -/
def settlement? (worker : Worker) : Event → Option (Nat × Verdict)
  | .ended number (.answered result) => some (number, verdictOf result)
  | .ended number (.crashed _) =>
      if (worker.otherCalls number).isEmpty then
        worker.pipeline.openRequest?.map fun issued => (issued.number, .failed)
      else none
  | _ => none

/-- The number of the request whose verdict counts with this event, if there is one. -/
def accepted? (worker : Worker) (event : Event) : Option Nat :=
  (worker.settlement? event).bind fun (number, verdict) =>
    if (worker.pipeline.settle number verdict).2 then some number else none

def acceptedAlong (worker : Worker) (display : Display) : List Move → List Nat
  | [] => []
  | move :: rest =>
      let now := match move with
        | .meet event => (worker.accepted? event).toList
        | _ => []
      match worker.move display move with
      | none => now
      | some (next, shown) => now ++ next.acceptedAlong shown rest

/-- An end of a call changes the pipeline by what it puts to it, and by nothing else. -/
theorem ended_pipeline {worker next : Worker} {display shown : Display} {number : Nat}
    {ending : Ending} (transition : Transition worker display next shown (.ended number ending)) :
    next.pipeline = (worker.settlement? (.ended number ending)).elim worker.pipeline
      fun (settled, verdict) => (worker.pipeline.settle settled verdict).1 := by
  cases transition with
  | answered _ result calling queue calls pipeline effect => exact pipeline
  | cancelled _ calling queue calls pipeline effect => exact pipeline
  | crashed _ reason calling queue calls pipeline effect =>
      by_cases alone : (worker.otherCalls number).isEmpty
      · rw [pipeline, if_pos alone, Pipeline.abandon_eq_settle]
        simp only [settlement?, if_pos alone]
        cases worker.pipeline.openRequest? <;> rfl
      · rw [pipeline, if_neg alone]
        simp only [settlement?, if_neg alone]
        rfl

/-! ## Superseded calls -/

/-- A verdict on another request than the latest does not count. -/
theorem settle_superseded {pipeline : Pipeline} {number : Nat}
    (superseded : pipeline.lastNumber? ≠ some number) (verdict : Verdict) :
    pipeline.settle number verdict = (pipeline, false) := by
  rcases pipeline.settle_cases number verdict with dropped | ⟨issued, last, same, _⟩
  · exact dropped
  · exact absurd (by rw [Pipeline.lastNumber?, last, Option.map_some, same]) superseded

theorem abandon_gate (pipeline : Pipeline) : pipeline.abandon.gate = pipeline.gate := by
  rcases Pipeline.abandon_eq pipeline with same | ⟨issued, _, _, recorded⟩
  · rw [same]
  · rw [recorded]
    rfl

theorem superseded_end {worker next : Worker} {display shown : Display} {number : Nat}
    {ending : Ending} (superseded : worker.pipeline.lastNumber? ≠ some number)
    (transition : Transition worker display next shown (.ended number ending)) :
    next.pipeline.gate = worker.pipeline.gate ∧ shown.signals = display.signals ∧
      shown.view = display.view := by
  cases transition with
  | answered _ result calling queue calls pipeline effect =>
      rw [settle_superseded superseded] at pipeline effect
      subst shown
      exact ⟨by rw [pipeline], rfl, rfl⟩
  | cancelled _ calling queue calls pipeline effect =>
      subst shown
      exact ⟨by rw [pipeline], rfl, rfl⟩
  | crashed _ reason calling queue calls pipeline effect =>
      subst shown
      refine ⟨?_, rfl, rfl⟩
      -- The open request may fail with this call, but a failure leaves the gate as it was.
      rw [pipeline]
      split
      · exact abandon_gate _
      · rfl

/-! ## The order in which verdicts count -/

/-- The requests with a verdict that counted so far: each was issued, and all of them before the
open one. -/
structure AcceptedSoFar (worker : Worker) (accepted : List Nat) : Prop where
  increasing : accepted.Pairwise (· < ·)
  issued : ∀ number ∈ accepted, number < worker.pipeline.nextNumber
  before_open : ∀ issued, worker.pipeline.lastIssued = some issued → issued.verdict = none →
    ∀ number ∈ accepted, number < issued.number

theorem start_acceptedSoFar (window : Nat) : (start window).AcceptedSoFar [] where
  increasing := .nil
  issued number member := by cases member
  before_open issued last := by cases last

theorem AcceptedSoFar.of_same_requests {worker next : Worker} {accepted : List Nat}
    (soFar : worker.AcceptedSoFar accepted)
    (last : next.pipeline.lastIssued = worker.pipeline.lastIssued)
    (number : next.pipeline.nextNumber = worker.pipeline.nextNumber) :
    next.AcceptedSoFar accepted where
  increasing := soFar.increasing
  issued settled member := by
    rw [number]
    exact soFar.issued settled member
  before_open issued found := soFar.before_open issued (last ▸ found)

theorem sends_acceptedSoFar {worker next : Worker} {accepted : List Nat}
    (soFar : worker.AcceptedSoFar accepted) (sends : Sends worker next) :
    next.AcceptedSoFar accepted := by
  cases sends with
  | nothing empty pipeline calls =>
      exact soFar.of_same_requests (by rw [pipeline]) (by rw [pipeline])
  | request pending waits pipeline calls =>
      refine ⟨soFar.increasing, ?_, ?_⟩
      · intro number member
        rw [pipeline]
        exact Nat.lt_succ_of_lt (soFar.issued number member)
      · intro issued found _ number member
        rw [pipeline] at found
        cases found
        exact soFar.issued number member

/-- A verdict that counts is on a later request than all before it. -/
theorem settle_acceptedSoFar {worker next : Worker} {accepted : List Nat} {number : Nat}
    {verdict : Verdict} (numbered : worker.Numbered) (soFar : worker.AcceptedSoFar accepted)
    (pipeline : next.pipeline = (worker.pipeline.settle number verdict).1) :
    next.AcceptedSoFar (accepted ++
      (if (worker.pipeline.settle number verdict).2 then some number else none).toList) := by
  rcases worker.pipeline.settle_cases number verdict with
    dropped | ⟨issued, last, rfl, isOpen, recorded⟩
  · rw [dropped] at pipeline ⊢
    simpa using soFar.of_same_requests (by rw [pipeline]) (by rw [pipeline])
  · rw [recorded] at pipeline ⊢
    have earlier := soFar.before_open issued last isOpen
    have latest := numbered.latest issued last
    refine ⟨?_, ?_, ?_⟩
    · refine List.pairwise_append.mpr ⟨soFar.increasing, by simp, ?_⟩
      intro before member after newest
      rw [List.mem_singleton.mp newest]
      exact earlier before member
    · intro settled member
      rw [pipeline]
      rcases List.mem_append.mp member with old | new
      · exact soFar.issued settled old
      · rw [List.mem_singleton.mp new]
        exact latest ▸ Nat.lt_succ_self _
    · intro other found stillOpen
      rw [pipeline] at found
      cases found
      cases stillOpen

theorem transition_acceptedSoFar {worker next : Worker} {display shown : Display}
    {event : Event} {accepted : List Nat} (numbered : worker.Numbered)
    (soFar : worker.AcceptedSoFar accepted)
    (transition : Transition worker display next shown event) :
    next.AcceptedSoFar (accepted ++ (worker.accepted? event).toList) := by
  cases event with
  | command now =>
      rw [show worker.accepted? (.command now) = none from rfl, Option.toList_none,
        List.append_nil]
      cases transition with
      | content text localError _ taken calls pipeline effect =>
          obtain ⟨last, number⟩ :=
            Pipeline.onContent_requests worker.pipeline text localError now
          exact soFar.of_same_requests (by rw [pipeline, last]) (by rw [pipeline, number])
      | flush waiter _ taken sends effect => exact sends_acceptedSoFar soFar sends
  | expiry now =>
      rw [show worker.accepted? (.expiry now) = none from rfl, Option.toList_none,
        List.append_nil]
      cases transition with
      | expiry _ queue due sends effect => exact sends_acceptedSoFar soFar sends
  | ended number ending =>
      have pipeline := ended_pipeline transition
      unfold accepted?
      cases put : worker.settlement? (.ended number ending) with
      | none =>
          rw [put, Option.elim_none] at pipeline
          simpa using soFar.of_same_requests (by rw [pipeline]) (by rw [pipeline])
      | some settled =>
          rw [put, Option.elim_some] at pipeline
          exact settle_acceptedSoFar numbered soFar pipeline

theorem play_acceptedSoFar {worker final : Worker} {display shown : Display}
    {accepted : List Nat} (moves : List Move) (numbered : worker.Numbered)
    (soFar : worker.AcceptedSoFar accepted)
    (run : worker.play display moves = some (final, shown)) :
    final.AcceptedSoFar (accepted ++ worker.acceptedAlong display moves) := by
  induction moves generalizing worker display accepted with
  | nil =>
      cases run
      simpa [acceptedAlong] using soFar
  | cons move rest ih =>
      obtain ⟨⟨next, middle⟩, first, later⟩ := Option.bind_eq_some_iff.mp run
      have nextNumbered := move_numbered numbered first
      simp only [acceptedAlong, first, ← List.append_assoc]
      refine ih nextNumbered ?_ later
      cases move with
      | submit command =>
          cases first
          have same : (worker.submit command).AcceptedSoFar accepted :=
            soFar.of_same_requests rfl rfl
          simpa using same
      | host act =>
          cases first
          simpa using soFar
      | meet event =>
          exact transition_acceptedSoFar numbered soFar (step_transition first)

/-- In every run, with whatever the host does meanwhile: the end of a call that is not the latest,
however it ended, changes neither the gate nor the error signals nor the view; the end of any call
changes the pipeline only by the verdict it puts to it; the numbers of the requests whose verdicts
count increase strictly, so that each counts once; and a verdict that does not count leaves the
whole pipeline as it was. -/
theorem superseded_results_discarded (window : Nat) (display shown : Display)
    (moves : List Move) (worker : Worker)
    (run : (start window).play display moves = some (worker, shown)) :
    (∀ number ending next after, worker.pipeline.lastNumber? ≠ some number →
      worker.step shown (.ended number ending) = some (next, after) →
        next.pipeline.gate = worker.pipeline.gate ∧ after.signals = shown.signals ∧
          after.view = shown.view) ∧
    (∀ number ending next after,
      worker.step shown (.ended number ending) = some (next, after) →
        next.pipeline = (worker.settlement? (.ended number ending)).elim worker.pipeline
          fun (settled, verdict) => (worker.pipeline.settle settled verdict).1) ∧
    ((start window).acceptedAlong display moves).Pairwise (· < ·) ∧
    ((start window).acceptedAlong display moves).Nodup ∧
    (∀ number verdict, (worker.pipeline.settle number verdict).2 = false →
      (worker.pipeline.settle number verdict).1 = worker.pipeline) := by
  have increasing : ((start window).acceptedAlong display moves).Pairwise (· < ·) :=
    (play_acceptedSoFar moves (start_numbered window) (start_acceptedSoFar window)
      run).increasing
  refine ⟨?_, ?_, increasing, increasing.imp Nat.ne_of_lt, ?_⟩
  · intro number ending next after superseded ended
    exact superseded_end superseded (step_transition ended)
  · intro number ending next after ended
    exact ended_pipeline (step_transition ended)
  · intro number verdict refused
    rw [Pipeline.settle_rejected refused]

/-- The call for `a` is superseded by the one for `b`, which is answered first. Then the rejection of
`a` arrives, produced before its call was aborted: the gate stays open and nothing is shown. -/
theorem late_rejection_discarded :
    let display : Display := ⟨.create ['b'] .readOnlyView, .quiet, []⟩
    let moves : List Move :=
      [.submit (.content ['a'] false), .submit (.flush 0), .meet (.command 0),
        .meet (.command 0), .submit (.content ['b'] false), .submit (.flush 1),
        .meet (.command 10), .meet (.command 10), .meet (.ended 2 (.answered (.ok .success)))]
    let late : Event := .ended 1 (.answered (.ok (.rejected ⟨"too late", 1, 1, 1⟩)))
    let worker : Worker :=
      ⟨⟨500, none, some ⟨2, ['b'], some .valid⟩, 3, false⟩, [], [⟨1, ['a'], true⟩], [], [0, 1]⟩
    let shown : Display :=
      ⟨⟨.readOnlyView, ⟨['b']⟩, [], [], 1, false⟩, ⟨⟨false, false⟩, false, 2⟩, []⟩
    (start 500).play display moves = some (worker, shown) ∧
      ∃ next after, worker.step shown late = some (next, after) ∧
        next.pipeline.gate = false ∧ after.view.validatorFindings = [] := by
  intro display moves late worker shown
  have run : (start 500).play display moves = some (worker, shown) := by decide
  have ended : worker.step shown late = some ({ worker with calls := [] }, shown) := by decide
  obtain ⟨gate, _, view⟩ := (superseded_results_discarded 500 display shown moves worker run).1
    1 _ _ _ (by decide) ended
  exact ⟨run, _, _, ended, gate, congrArg View.validatorFindings view⟩

end Worker

end StrategyDesk
