import StrategyDesk.Proofs.Worker.Displayed
import StrategyDesk.Proofs.Worker.Trace

/-!
# The rejection that is shown

At most one rejection is shown. It is the one in the latest result that counted and said whether the
text is valid, if that was a rejection, in the place that it was given when it came.
-/

set_option autoImplicit false

namespace StrategyDesk

structure Mark where
  rejection : Rejection
  document : Document
deriving DecidableEq, Repr

def Mark.diagnostic (mark : Mark) : Diagnostic := mark.rejection.diagnostic mark.document

/-- The rejection that is shown after an event. Only a result that counts replaces it, and one that
says nothing of the text leaves it. -/
def Worker.markAfter (worker : Worker) (document : Document) (mark : Option Mark) :
    Worker.Event → Option Mark
  | .ended number (.answered result) =>
      if (worker.pipeline.settle number (verdictOf result)).2 then
        match result with
        | .ok .success => none
        | .ok (.rejected rejection) => some ⟨rejection, document⟩
        | .ok (.unexpected _) | .error _ => mark
      else mark
  | _ => mark

theorem Worker.transition_marked {worker next : Worker} {display shown : Display}
    {mark : Option Mark} {event : Worker.Event} (standing : display.view.destroyed = false)
    (marked : display.view.validatorFindings = mark.toList.map Mark.diagnostic)
    (transition : Worker.Transition worker display next shown event) :
    shown.view.validatorFindings =
      (worker.markAfter display.view.document mark event).toList.map Mark.diagnostic := by
  cases transition with
  | content text localError now taken calls pipeline effect =>
      rw [effect]
      exact marked
  | flush waiter now taken sends effect =>
      rw [effect]
      exact marked
  | expiry now queue due sends effect =>
      rw [effect]
      exact marked
  | answered number result calling queue calls pipeline effect =>
      rw [effect]
      unfold Worker.markAfter
      dsimp only
      by_cases counts : (worker.pipeline.settle number (verdictOf result)).2 = true
      · rw [if_pos counts, if_pos counts]
        rcases result with failure | outcome
        · exact marked
        · cases outcome with
          | success => exact View.findings_publish standing .validator .validator []
          | rejected rejection => exact View.findings_publish standing .validator .validator _
          | unexpected status => exact marked
      · rw [if_neg counts, if_neg counts]
        exact marked
  | cancelled number calling queue calls pipeline effect =>
      rw [effect]
      exact marked
  | crashed number reason calling queue calls pipeline effect =>
      rw [effect]
      exact marked

namespace Worker

/-! ## Runs -/

/-- A result that a worker takes in, with the document that is shown then. -/
abbrev Arrival := Except Failure Outcome × Document

def countingResults (worker : Worker) (display : Display) : Move → List Arrival
  | .meet (.ended number (.answered result)) =>
      if (worker.pipeline.settle number (verdictOf result)).2 then
        [(result, display.view.document)]
      else []
  | _ => []

/-- Whether a result says if the text is valid. -/
def Arrival.tells (arrival : Arrival) : Bool := verdictOf arrival.1 != .failed

def latestTelling? (arrivals : List Arrival) : Option Arrival :=
  (arrivals.filter Arrival.tells).getLast?

def Arrival.mark? : Arrival → Option Mark
  | (.ok (.rejected rejection), document) => some ⟨rejection, document⟩
  | _ => none

theorem latestTelling?_append {arrivals : List Arrival} {arrival : Arrival} :
    latestTelling? (arrivals ++ [arrival]) =
      if arrival.tells then some arrival else latestTelling? arrivals := by
  unfold latestTelling?
  rw [List.filter_append]
  by_cases tells : arrival.tells = true
  · rw [if_pos tells, List.filter_cons_of_pos tells, List.filter_nil, List.getLast?_concat]
  · rw [if_neg tells, List.filter_cons_of_neg tells, List.filter_nil, List.append_nil]

/-- An event changes the rejection that is shown by the result that counts with it. -/
theorem markAfter_eq (worker : Worker) (display : Display) (arrivals : List Arrival)
    (event : Event) :
    worker.markAfter display.view.document ((latestTelling? arrivals).bind Arrival.mark?) event =
      (latestTelling? (arrivals ++ worker.countingResults display (.meet event))).bind
        Arrival.mark? := by
  cases event with
  | command now => rw [countingResults, List.append_nil, markAfter] <;> nofun
  | expiry now => rw [countingResults, List.append_nil, markAfter] <;> nofun
  | ended number ending =>
      cases ending with
      | cancelled => rw [countingResults, List.append_nil, markAfter] <;> nofun
      | crashed reason => rw [countingResults, List.append_nil, markAfter] <;> nofun
      | answered result =>
          simp only [markAfter, countingResults]
          by_cases counts : (worker.pipeline.settle number (verdictOf result)).2 = true
          · rw [if_pos counts, if_pos counts]
            rw [latestTelling?_append]
            rcases result with failure | outcome
            · rfl
            · cases outcome <;> rfl
          · rw [if_neg counts, if_neg counts, List.append_nil]

theorem byHost_validatorFindings (display : Display) (act : HostAct) :
    (display.byHost act).view.validatorFindings = display.view.validatorFindings := by
  cases act with
  | transact transaction =>
      unfold Display.byHost
      dsimp only
      split
      next view update carried =>
        obtain ⟨document, rfl, _⟩ := View.dispatch_ok carried
        rfl
      · rfl
  | publish findings =>
      unfold Display.byHost Display.publish View.publish
      dsimp only
      split <;> rfl
  | flag value => rfl
  | collect => rfl

/-- A display of a worker that shows the rejection in the results so far. -/
structure Marked (worker : Worker) (display : Display) (arrivals : List Arrival) : Prop where
  displayed : worker.Displayed display
  findings : display.view.validatorFindings =
    ((latestTelling? arrivals).bind Arrival.mark?).toList.map Mark.diagnostic

section

variable {worker : Worker} {display : Display} {arrivals : List Arrival}

end

theorem move_marked {worker next : Worker} {display shown : Display} {move : Move}
    {arrivals : List Arrival} (marked : worker.Marked display arrivals)
    (run : worker.move display move = some (next, shown)) :
    next.Marked shown (arrivals ++ worker.countingResults display move) := by
  have displayed := move_displayed marked.displayed run
  refine ⟨displayed, ?_⟩
  cases move with
  | submit command =>
      cases run
      simpa only [countingResults, List.append_nil] using marked.findings
  | host act =>
      cases run
      rw [byHost_validatorFindings]
      simpa only [countingResults, List.append_nil] using marked.findings
  | meet event =>
      rw [← markAfter_eq]
      exact transition_marked marked.displayed.standing marked.findings (step_transition run)

theorem play_marked (window : Nat) (text : Text) (features : Features) {worker : Worker}
    {shown : Display} (moves : List Move)
    (run : (start window).play ⟨.create text features, .quiet, []⟩ moves = some (worker, shown)) :
    worker.Marked shown
      ((start window).trace countingResults ⟨.create text features, .quiet, []⟩ moves) := by
  have displayed : (start window).Displayed ⟨.create text features, .quiet, []⟩ :=
    ⟨rfl, rfl, rfl, fun _ => rfl⟩
  have before : (start window).Marked ⟨.create text features, .quiet, []⟩ [] := ⟨displayed, rfl⟩
  exact play_trace (fun marked first => move_marked marked first) moves before run

end Worker

end StrategyDesk
