import StrategyDesk.Proofs.Worker.Transition

/-!
# What a worker shows

The flag of the validator on the display is the gate of the pipeline, and where the pipeline knows of
no request that is not valid, no rejection is shown.
-/

set_option autoImplicit false

namespace StrategyDesk

namespace Signals

@[simp] theorem update_flags (signals : Signals) (flags : ErrorFlags) :
    (signals.update flags).flags = flags := by
  unfold update
  split <;> rfl

@[simp] theorem update_hasErrors (signals : Signals) (flags : ErrorFlags) :
    (signals.update flags).hasErrors = flags.any := by
  unfold update
  split
  next same => exact same.symm
  · rfl

end Signals

namespace View

theorem publish_of_standing {view : View} (standing : view.destroyed = false) (origin : Origin)
    (findings : List Diagnostic) :
    (view.publish origin findings).destroyed = false ∧
      (view.publish origin findings).document = view.document := by
  cases origin <;> simp [publish, standing]

/-- Publishing replaces the diagnostics of one origin and keeps those of the other. -/
theorem findings_publish {view : View} (standing : view.destroyed = false) (origin other : Origin)
    (findings : List Diagnostic) :
    (view.publish origin findings).findings other =
      if other = origin then findings else view.findings other := by
  cases origin <;> cases other <;> simp [publish, standing, View.findings]

/-- What a transaction that is carried out does to a view, and what it tells of that. -/
inductive CarriedOut (view : View) : Transaction → View → Update → Prop where
  | reconfigured : CarriedOut view .reconfigure view ⟨false, true⟩
  | idle {change : Change} (same : change.start = change.stop ∧ change.insert = []) :
      CarriedOut view (.change change) view .nothing
  | changed {change : Change} {document : Document}
      (applied : view.document.apply change = .ok document) :
      CarriedOut view (.change change) { view with document }
        ⟨document.text != view.document.text, false⟩

theorem dispatch_carriedOut {view next : View} {transaction : Transaction} {update : Update}
    (carried : view.dispatch transaction = .ok (next, update)) :
    CarriedOut view transaction next update := by
  unfold dispatch at carried
  split at carried
  · cases carried
  · cases transaction with
    | reconfigure =>
        cases carried
        exact .reconfigured
    | change change =>
        dsimp only at carried
        split at carried
        next same =>
          cases carried
          exact .idle same
        next =>
          cases applied : view.document.apply change with
          | error failure =>
              rw [applied] at carried
              cases carried
          | ok document =>
              rw [applied] at carried
              cases carried
              exact .changed applied

theorem dispatch_ok {view next : View} {transaction : Transaction} {update : Update}
    (carried : view.dispatch transaction = .ok (next, update)) :
    ∃ document, next = { view with document } ∧
      (update.isRelevant = false → document = view.document) := by
  cases dispatch_carriedOut carried with
  | reconfigured => exact ⟨view.document, rfl, fun _ => rfl⟩
  | idle same => exact ⟨view.document, rfl, fun _ => rfl⟩
  | @changed change document applied =>
      refine ⟨document, rfl, fun irrelevant => ?_⟩
      have same : document.text = view.document.text := by
        simpa [Update.isRelevant] using irrelevant
      exact congrArg Document.mk same

end View

namespace Worker

structure Displayed (worker : Worker) (display : Display) : Prop where
  standing : display.view.destroyed = false
  flag : display.signals.flags.validator = worker.pipeline.gate
  published : display.signals.hasErrors = display.signals.flags.any
  cleared : (∀ issued, worker.pipeline.lastIssued = some issued →
    issued.verdict = some .valid) → display.view.validatorFindings = []

/-- The display may follow a change of the gate as long as the verdicts stay as they are. -/
theorem Displayed.of_gate {worker next : Worker} {display : Display}
    (displayed : worker.Displayed display)
    (last : next.pipeline.lastIssued = worker.pipeline.lastIssued) :
    next.Displayed (display.setValidator next.pipeline.gate) where
  standing := displayed.standing
  flag := by simp [Display.setValidator, Signals.setValidator]
  published := by simp [Display.setValidator, Signals.setValidator]
  cleared valid := displayed.cleared fun issued found => valid issued (last ▸ found)

theorem Displayed.of_same {worker next : Worker} {display : Display}
    (displayed : worker.Displayed display)
    (gate : next.pipeline.gate = worker.pipeline.gate)
    (valid : (∀ issued, next.pipeline.lastIssued = some issued →
      issued.verdict = some .valid) → ∀ issued, worker.pipeline.lastIssued = some issued →
        issued.verdict = some .valid) :
    next.Displayed display where
  standing := displayed.standing
  flag := displayed.flag.trans gate.symm
  published := displayed.published
  cleared all := displayed.cleared (valid all)

theorem sends_displayed {worker next : Worker} {display : Display}
    (displayed : worker.Displayed display) (sends : Sends worker next) :
    next.Displayed display := by
  cases sends with
  | nothing empty pipeline calls =>
      exact displayed.of_same (by rw [pipeline]) (by rw [pipeline]; exact id)
  | request pending waits pipeline calls =>
      refine displayed.of_same (by rw [pipeline]; rfl) fun valid => ?_
      have answered := valid _ (by rw [pipeline]; rfl)
      cases answered

theorem showResult_displayed {worker next : Worker} {display : Display} {issued : Issued}
    {result : Except Failure Outcome} (displayed : worker.Displayed display)
    (pipeline : next.pipeline = worker.pipeline.record issued (verdictOf result)) :
    next.Displayed ((display.showResult result).setValidator next.pipeline.gate) := by
  have standing := displayed.standing
  have kept : (display.showResult result).view.destroyed = false := by
    rcases result with failure | outcome
    · exact standing
    · cases outcome with
      | success => exact (View.publish_of_standing standing _ _).1
      | rejected rejection => exact (View.publish_of_standing standing _ _).1
      | unexpected status => exact standing
  refine ⟨kept, by simp [Display.setValidator, Signals.setValidator],
    by simp [Display.setValidator, Signals.setValidator], fun valid => ?_⟩
  have verdict : some (verdictOf result) = some Verdict.valid :=
    valid _ (by rw [pipeline]; rfl)
  rcases result with failure | outcome
  · cases verdict
  · cases outcome with
    | success => exact View.findings_publish standing .validator .validator []
    | rejected rejection => cases verdict
    | unexpected status => cases verdict

theorem transition_displayed {worker next : Worker} {display shown : Display} {event : Event}
    (displayed : worker.Displayed display)
    (transition : Transition worker display next shown event) : next.Displayed shown := by
  cases transition with
  | content text localError now taken calls pipeline effect =>
      subst shown
      refine displayed.of_gate ?_
      rw [pipeline]
      exact (Pipeline.onContent_requests worker.pipeline text localError now).1
  | flush waiter now taken sends effect =>
      subst shown
      exact sends_displayed displayed sends
  | expiry now queue due sends effect =>
      subst shown
      exact sends_displayed displayed sends
  | answered number result calling queue calls pipeline effect =>
      rcases worker.pipeline.settle_cases number (verdictOf result) with
        dropped | ⟨issued, last, rfl, _, recorded⟩
      · rw [dropped] at effect pipeline
        subst shown
        exact displayed.of_same (by rw [pipeline]) (by rw [pipeline]; exact id)
      · rw [recorded] at effect pipeline
        subst shown
        exact showResult_displayed displayed pipeline
  | cancelled number calling queue calls pipeline effect =>
      subst shown
      exact displayed.of_same (by rw [pipeline]) (by rw [pipeline]; exact id)
  | crashed number reason calling queue calls pipeline effect =>
      have reported : next.Displayed display := by
        rcases crashed_cases pipeline with same | ⟨issued, _, _, _, recorded⟩
        · exact displayed.of_same (by rw [same]) (by rw [same]; exact id)
        · refine displayed.of_same (by rw [recorded]; rfl) fun valid => ?_
          have answered := valid _ (by rw [recorded]; rfl)
          cases answered
      subst shown
      exact ⟨reported.standing, reported.flag, reported.published, reported.cleared⟩

theorem byHost_displayed {worker : Worker} {display : Display} (act : HostAct)
    (displayed : worker.Displayed display) : worker.Displayed (display.byHost act) := by
  cases act with
  | transact transaction =>
      unfold Display.byHost
      dsimp only
      split
      next view update carried =>
        obtain ⟨document, rfl, _⟩ := View.dispatch_ok carried
        exact ⟨displayed.standing, displayed.flag, displayed.published, displayed.cleared⟩
      · exact displayed
  | publish findings =>
      refine ⟨(View.publish_of_standing displayed.standing _ _).1, displayed.flag,
        displayed.published, fun valid => ?_⟩
      exact (View.findings_publish displayed.standing .sandbox .validator findings).trans
        (displayed.cleared valid)
  | flag value =>
      exact ⟨displayed.standing, by
        simpa [Display.byHost, Display.setSandbox, Signals.setSandbox] using displayed.flag,
        by simp [Display.byHost, Display.setSandbox, Signals.setSandbox], displayed.cleared⟩
  | collect =>
      exact ⟨displayed.standing, displayed.flag, displayed.published, displayed.cleared⟩

theorem move_displayed {worker next : Worker} {display shown : Display} {move : Move}
    (displayed : worker.Displayed display)
    (run : worker.move display move = some (next, shown)) : next.Displayed shown := by
  cases move with
  | submit command =>
      cases run
      exact displayed.of_same rfl id
  | host act =>
      cases run
      exact byHost_displayed act displayed
  | meet event => exact transition_displayed displayed (step_transition run)

end Worker

end StrategyDesk
