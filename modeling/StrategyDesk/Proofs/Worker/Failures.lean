import StrategyDesk.Proofs.Worker.Numbering
import StrategyDesk.Proofs.Worker.Trace

/-!
# The failures that a host gets

A call that is the latest when it ends reports the failure it ends with. One that was superseded
reports nothing, however it was answered, but it is reported when it dies. So the failures of a run
are those of the latest calls exactly if no superseded call died.
-/

set_option autoImplicit false

namespace StrategyDesk

def deathFailure (reason : String) : Failure := .internal s!"validation task failed: {reason}"

def Ending.failure? : Ending → Option Failure
  | .answered (.ok (.unexpected status)) =>
      some (.transport (some status) "validation request failed")
  | .answered (.ok _) => none
  | .answered (.error failure) => some failure
  | .cancelled => none
  | .crashed reason => some (deathFailure reason)

def Ending.death? : Ending → Option Failure
  | .crashed reason => some (deathFailure reason)
  | _ => none

theorem Display.showResult_failures (display : Display) (result : Except Failure Outcome) :
    (display.showResult result).failures =
      display.failures ++ (Ending.answered result).failure?.toList := by
  rcases result with failure | outcome
  · rfl
  · cases outcome with
    | success => exact (List.append_nil _).symm
    | rejected rejection => exact (List.append_nil _).symm
    | unexpected status => rfl

namespace Worker

/-- The failure that the end of a call reports: the one it ends with, if the call is the latest,
and its death only, if it was superseded. -/
def reported? (worker : Worker) (number : Nat) (ending : Ending) : Option Failure :=
  if worker.pipeline.lastNumber? = some number then ending.failure? else ending.death?

/-! ## What is noted of a move -/

def dueReports (worker : Worker) (_ : Display) : Move → List (Nat × Failure)
  | .meet (.ended number ending) =>
      if worker.pipeline.lastNumber? = some number then
        (ending.failure?.map fun failure => (number, failure)).toList
      else []
  | _ => []

def lateReports (worker : Worker) (_ : Display) : Move → List (Nat × Failure)
  | .meet (.ended number ending) =>
      if worker.pipeline.lastNumber? = some number then []
      else (ending.death?.map fun failure => (number, failure)).toList
  | _ => []

def reports (worker : Worker) (display : Display) (move : Move) : List (Nat × Failure) :=
  worker.dueReports display move ++ worker.lateReports display move

def collected (_ : Worker) (display : Display) : Move → List Failure
  | .host .collect => display.failures
  | _ => []

def endedCall (_ : Worker) (_ : Display) : Move → List Nat
  | .meet (.ended number _) => [number]
  | _ => []

theorem dueReports_sublist (worker : Worker) (display : Display) (move : Move) :
    (worker.dueReports display move).Sublist (worker.reports display move) :=
  List.sublist_append_left _ _

theorem reports_ended (worker : Worker) (display : Display) (number : Nat) (ending : Ending) :
    worker.reports display (.meet (.ended number ending)) =
      ((worker.reported? number ending).map fun failure => (number, failure)).toList := by
  simp only [reports, dueReports, lateReports, reported?]
  by_cases latest : worker.pipeline.lastNumber? = some number
  · rw [if_pos latest, if_pos latest, if_pos latest, List.append_nil]
  · rw [if_neg latest, if_neg latest, if_neg latest, List.nil_append]

theorem reports_numbers_sublist (worker : Worker) (display : Display) (move : Move) :
    ((worker.reports display move).map Prod.fst).Sublist (worker.endedCall display move) := by
  cases move with
  | submit command => exact .slnil
  | host act => exact .slnil
  | meet event =>
      cases event with
      | command now => exact .slnil
      | expiry now => exact .slnil
      | ended number ending =>
          rw [reports_ended]
          cases worker.reported? number ending with
          | none => exact List.nil_sublist _
          | some failure => exact .refl _

/-! ## What the failures are -/

theorem ended_failures {worker next : Worker} {display shown : Display} {number : Nat}
    {ending : Ending} (numbered : worker.Numbered)
    (transition : Transition worker display next shown (.ended number ending)) :
    shown.failures = display.failures ++ (worker.reported? number ending).toList := by
  unfold reported?
  cases transition with
  | answered _ result calling queue calls pipeline effect =>
      have counts := numbered.settle_counts_iff calling (verdictOf result)
      rw [effect]
      by_cases latest : worker.pipeline.lastNumber? = some number
      · rw [if_pos (counts.mpr latest), if_pos latest]
        exact display.showResult_failures result
      · rw [if_neg (mt counts.mp latest), if_neg latest]
        exact (List.append_nil _).symm
  | cancelled _ calling queue calls pipeline effect =>
      rw [effect]
      split <;> exact (List.append_nil _).symm
  | crashed _ reason calling queue calls pipeline effect =>
      -- A death is reported without a look at which call is the latest.
      rw [effect]
      split <;> rfl

theorem byHost_failures (worker : Worker) (display : Display) (act : HostAct) :
    worker.collected display (.host act) ++ (display.byHost act).failures = display.failures := by
  cases act with
  | transact transaction =>
      unfold collected Display.byHost
      dsimp only
      split <;> rfl
  | publish findings => rfl
  | flag value => rfl
  | collect => exact List.append_nil _

theorem move_failures {worker next : Worker} {display shown : Display} {move : Move}
    (numbered : worker.Numbered) (run : worker.move display move = some (next, shown)) :
    worker.collected display move ++ shown.failures =
      display.failures ++ (worker.reports display move).map Prod.snd := by
  cases move with
  | submit command =>
      cases run
      exact (List.append_nil _).symm
  | host act =>
      cases run
      exact (worker.byHost_failures display act).trans (List.append_nil _).symm
  | meet event =>
      have transition := step_transition run
      cases event with
      | ended number ending =>
          have added := ended_failures numbered transition
          rw [reports_ended, added]
          cases worker.reported? number ending <;> rfl
      | command now =>
          refine Eq.trans ?_ (List.append_nil _).symm
          cases transition with
          | content text localError _ taken calls pipeline effect => exact effect ▸ rfl
          | flush waiter _ taken sends effect => exact effect ▸ rfl
      | expiry now =>
          refine Eq.trans ?_ (List.append_nil _).symm
          cases transition with
          | expiry _ queue due sends effect => exact effect ▸ rfl

theorem play_failures {worker final : Worker} {display shown : Display} (moves : List Move)
    (numbered : worker.Numbered) (run : worker.play display moves = some (final, shown)) :
    worker.trace collected display moves ++ shown.failures =
      display.failures ++ (worker.trace reports display moves).map Prod.snd := by
  induction moves generalizing worker display with
  | nil =>
      cases run
      exact (List.append_nil _).symm
  | cons move rest ih =>
      obtain ⟨⟨next, middle⟩, first, later⟩ := Option.bind_eq_some_iff.mp run
      have now := move_failures numbered first
      have then' := ih (move_numbered numbered first) later
      rw [trace_cons _ first, trace_cons _ first]
      calc worker.collected display move ++ next.trace collected middle rest ++ shown.failures
          = worker.collected display move ++
              (middle.failures ++ (next.trace reports middle rest).map Prod.snd) := by
            rw [List.append_assoc, then']
        _ = display.failures ++ ((worker.reports display move).map Prod.snd ++
              (next.trace reports middle rest).map Prod.snd) := by
            rw [← List.append_assoc, now, List.append_assoc]
        _ = display.failures ++
              (worker.reports display move ++ next.trace reports middle rest).map Prod.snd := by
            rw [List.map_append]

/-! ## One failure for a call -/

/-- The calls that have ended are not under way, and their numbers are not given again. -/
structure EndedSoFar (worker : Worker) (ended : List Nat) : Prop where
  numbered : worker.Numbered
  once : ended.Nodup
  issued : ∀ number ∈ ended, number < worker.pipeline.nextNumber
  gone : ∀ number ∈ ended, ¬ worker.Calling number

theorem EndedSoFar.of_event {worker next : Worker} {display shown : Display} {event : Event}
    {ended : List Nat} (soFar : worker.EndedSoFar ended)
    (transition : Transition worker display next shown event) : next.EndedSoFar ended where
  numbered := transition_numbered soFar.numbered transition
  once := soFar.once
  issued number member :=
    Nat.lt_of_lt_of_le (soFar.issued number member) (transition_nextNumber_le transition)
  gone number member := by
    rintro ⟨call, among, same⟩
    rcases transition_calls transition among with ⟨old, known, number', _⟩ | new
    · exact soFar.gone number member ⟨old, known, number'.trans same⟩
    · have less := soFar.issued number member
      omega

theorem move_endedSoFar {worker next : Worker} {display shown : Display} {move : Move}
    {ended : List Nat} (soFar : worker.EndedSoFar ended)
    (run : worker.move display move = some (next, shown)) :
    next.EndedSoFar (ended ++ worker.endedCall display move) := by
  cases move with
  | submit command =>
      cases run
      simp only [endedCall, List.append_nil]
      exact ⟨submit_numbered command soFar.numbered, soFar.once, soFar.issued, soFar.gone⟩
  | host act =>
      cases run
      simp only [endedCall, List.append_nil]
      exact soFar
  | meet event =>
      have transition := step_transition run
      have after := soFar.of_event transition
      cases event with
      | command now => simpa only [endedCall, List.append_nil] using after
      | expiry now => simpa only [endedCall, List.append_nil] using after
      | ended number ending =>
          obtain ⟨calling, calls⟩ := ended_calls transition
          have fresh : number ∉ ended := fun member => soFar.gone number member calling
          refine ⟨after.numbered, ?_, ?_, ?_⟩
          · refine List.nodup_append.mpr ⟨after.once, List.pairwise_singleton _ number, ?_⟩
            intro old known new newest same
            rw [List.mem_singleton.mp newest] at same
            exact fresh (same ▸ known)
          · intro other member
            rcases List.mem_append.mp member with old | new
            · exact after.issued other old
            · obtain ⟨call, among, same⟩ := calling
              have issued := soFar.numbered.calls_lt call among
              rw [List.mem_singleton.mp new, ← same]
              exact Nat.lt_of_lt_of_le issued (transition_nextNumber_le transition)
          · intro other member
            rcases List.mem_append.mp member with old | new
            · exact after.gone other old
            · rintro ⟨call, among, same⟩
              rw [calls] at among
              exact (mem_otherCalls.mp among).2 (same.trans (List.mem_singleton.mp new))

theorem reports_nodup (window : Nat) {worker : Worker} {display shown : Display}
    (moves : List Move) (run : (start window).play display moves = some (worker, shown)) :
    (((start window).trace reports display moves).map Prod.fst).Nodup := by
  have before : (start window).EndedSoFar [] :=
    ⟨start_numbered window, .nil, nofun, nofun⟩
  have ended : worker.EndedSoFar ([] ++ (start window).trace endedCall display moves) :=
    play_trace (fun soFar first => move_endedSoFar soFar first) moves before run
  rw [trace_map]
  exact ended.once.sublist (trace_sublist reports_numbers_sublist _ _ _)

/-- In every run, with whatever the host does meanwhile: what the host took and what waits for it
are the failures that the ended calls report, in their order, and no call reports two. A call that
is the latest when it ends adds the failure it ends with, and one that was superseded adds one
exactly if it dies. So the host gets the failures of the latest calls and no others exactly if no
superseded call died. -/
theorem failures_of_run (window : Nat) (display shown : Display) (moves : List Move)
    (worker : Worker) (run : (start window).play display moves = some (worker, shown)) :
    let taken := (start window).trace collected display moves
    let due := (start window).trace dueReports display moves
    let late := (start window).trace lateReports display moves
    let all := (start window).trace reports display moves
    taken ++ shown.failures = display.failures ++ all.map Prod.snd ∧
    (all.map Prod.fst).Nodup ∧
    (∀ number ending next after,
      worker.step shown (.ended number ending) = some (next, after) →
        (worker.pipeline.lastNumber? = some number →
          after.failures = shown.failures ++ ending.failure?.toList) ∧
        (worker.pipeline.lastNumber? ≠ some number →
          after.failures = shown.failures ++ ending.death?.toList)) ∧
    (taken ++ shown.failures = display.failures ++ due.map Prod.snd ↔ late = []) := by
  intro taken due late all
  have failures : taken ++ shown.failures = display.failures ++ all.map Prod.snd :=
    play_failures moves (start_numbered window) run
  have lengths : all.length = due.length + late.length :=
    trace_append_length dueReports lateReports _ _ _
  have part : due.Sublist all := trace_sublist dueReports_sublist _ _ _
  refine ⟨failures, reports_nodup window moves run, ?_, ?_⟩
  · intro number ending next after ended
    have numbered := play_numbered moves (start_numbered window) run
    have added := ended_failures numbered (step_transition ended)
    unfold reported? at added
    exact ⟨fun latest => by rwa [if_pos latest] at added,
      fun superseded => by rwa [if_neg superseded] at added⟩
  · rw [failures, List.append_cancel_left_eq]
    constructor
    · intro same
      have count := congrArg List.length same
      rw [List.length_map, List.length_map] at count
      exact List.length_eq_zero_iff.mp (by omega)
    · intro none
      have count : due.length = all.length := by rw [lengths, none]; rfl
      rw [part.eq_of_length count]

/-- The call for `a` dies at the moment at which the one for `b` is made, and its death is taken in
after that: it is reported although the call is not the latest any more. -/
theorem superseded_death_reported :
    let display : Display := ⟨.create ['b'] .readOnlyView, .quiet, []⟩
    let moves : List Move :=
      [.submit (.content ['a'] false), .meet (.command 0), .meet (.expiry 500),
        .submit (.content ['b'] false), .meet (.command 700), .meet (.expiry 1200),
        .meet (.ended 1 (.crashed "lost"))]
    let worker : Worker :=
      ⟨⟨500, none, some ⟨2, ['b'], none⟩, 3, true⟩, [], [⟨2, ['b'], false⟩], [], []⟩
    let shown : Display :=
      ⟨.create ['b'] .readOnlyView, ⟨⟨false, true⟩, true, 1⟩, [deathFailure "lost"]⟩
    (start 500).play display moves = some (worker, shown) ∧
      (start 500).trace dueReports display moves = [] ∧
        shown.failures ≠ display.failures := by
  intro display moves worker shown
  have run : (start 500).play display moves = some (worker, shown) := by decide
  have due : (start 500).trace dueReports display moves = [] := by decide
  have late : (start 500).trace lateReports display moves ≠ [] := by decide
  refine ⟨run, due, fun silent => late ?_⟩
  refine (failures_of_run 500 display shown moves worker run).2.2.2.mp ?_
  rw [due, silent]
  decide

end Worker

end StrategyDesk
