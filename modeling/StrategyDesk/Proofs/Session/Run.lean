import StrategyDesk.Proofs.Session.Operation
import StrategyDesk.Proofs.Worker.Answers

/-!
# Runs of a session

A session that may be edited goes through operations of its host and events of its worker, in any
order. After each of them it is coherent: the sandbox holds the text, the display shows what the
sandbox finds in it, and the worker was told of the text and of whether it has errors.
-/

set_option autoImplicit false

namespace StrategyDesk

/-- Whether a display shows the same document with the same findings and flag of the sandbox. -/
def Display.SameHostSide (display shown : Display) : Prop :=
  shown.view.document = display.view.document ∧
    shown.view.sandboxFindings = display.view.sandboxFindings ∧
      shown.signals.flags.sandbox = display.signals.flags.sandbox

theorem Display.publish_sameHostSide (display : Display) (findings : List Diagnostic) :
    display.SameHostSide (display.publish .validator findings) := by
  unfold SameHostSide Display.publish View.publish
  split <;> exact ⟨rfl, rfl, rfl⟩

theorem Display.showResult_sameHostSide (display : Display) (result : Except Failure Outcome) :
    display.SameHostSide (display.showResult result) := by
  rcases result with failure | outcome
  · exact ⟨rfl, rfl, rfl⟩
  · cases outcome with
    | success => exact display.publish_sameHostSide _
    | rejected rejection => exact display.publish_sameHostSide _
    | unexpected status => exact ⟨rfl, rfl, rfl⟩

theorem Display.SameHostSide.setValidator {display shown : Display}
    (same : display.SameHostSide shown) (value : Bool) :
    display.SameHostSide (shown.setValidator value) := by
  obtain ⟨document, findings, flag⟩ := same
  refine ⟨document, findings, ?_⟩
  simpa [Display.setValidator, Signals.setValidator] using flag

/-- A worker leaves alone what the host shows. -/
theorem Worker.transition_sameHostSide {worker next : Worker} {display shown : Display}
    {event : Worker.Event} (transition : Worker.Transition worker display next shown event) :
    display.SameHostSide shown := by
  have unchanged : display.SameHostSide display := ⟨rfl, rfl, rfl⟩
  cases transition with
  | content text localError now taken calls pipeline effect =>
      rw [effect]
      exact unchanged.setValidator _
  | flush waiter now taken sends effect =>
      rw [effect]
      exact unchanged
  | expiry now queue due sends effect =>
      rw [effect]
      exact unchanged
  | answered number result calling queue calls pipeline effect =>
      rw [effect]
      split
      · exact (display.showResult_sameHostSide result).setValidator _
      · exact unchanged
  | cancelled number calling queue calls pipeline effect =>
      rw [effect]
      exact unchanged
  | crashed number reason calling queue calls pipeline effect =>
      rw [effect]
      exact unchanged

namespace Session

/-- An operation of the host, or an event of the worker. -/
inductive Action where
  | setCode (text : Text)
  | edit (change : Change)
  | addLibrary (path : String) (content : Text)
  | lint
  | requestFlush (waiter : Nat)
  | takeFailures
  | meet (event : Worker.Event)

/-- The session after an action, if that is possible and the program survives it. An operation that
fails leaves the session as it was when it failed. -/
def act (session : Session) : Action → Option Session
  | .setCode text => (session.setCode text).map Prod.fst
  | .edit change => (session.edit change).map Prod.fst
  | .addLibrary path content => (session.addLibrary path content).map Prod.fst
  | .lint => session.lint.map Prod.fst
  | .requestFlush waiter => some (session.requestFlush waiter)
  | .takeFailures => some session.takeFailures.1
  | .meet event => session.workerStep event

def play (session : Session) : List Action → Option Session
  | [] => some session
  | action :: rest => do (← session.act action).play rest

def answer? (session : Session) : Action → Option Answer
  | .meet event => session.worker.bind fun worker => worker.answer? event
  | _ => none

/-- The answers of the validator along a list of actions. -/
def answersAlong (session : Session) : List Action → List Answer
  | [] => []
  | action :: rest =>
      (session.answer? action).toList ++
        match session.act action with
        | some next => next.answersAlong rest
        | none => []

theorem workerStep_eq_some {session next : Session} {event : Worker.Event}
    (stepped : session.workerStep event = some next) :
    ∃ worker after shown, session.worker = some worker ∧
      worker.step session.display event = some (after, shown) ∧
        next = { session with worker := some after, display := shown } := by
  obtain ⟨worker, working, met⟩ := Option.bind_eq_some_iff.mp stepped
  obtain ⟨⟨after, shown⟩, step, made⟩ := Option.bind_eq_some_iff.mp met
  exact ⟨worker, after, shown, working, step, (Option.some.inj made).symm⟩

theorem workerStep_of_step {session : Session} {worker after : Worker} {shown : Display}
    {event : Worker.Event} (working : session.worker = some worker)
    (step : worker.step session.display event = some (after, shown)) :
    session.workerStep event = some { session with worker := some after, display := shown } := by
  simp only [workerStep, working, Option.bind_eq_bind, Option.bind_some, step]
  rfl

/-- A session that may be edited, with its sandbox and its worker, after a given latest content. -/
structure Running (session : Session) (env : Environment) (worker : Worker)
    (latest : Option Feed) (ledger : List Answer) : Prop where
  sandbox : session.sandbox = some env
  live : env.disposed = false
  working : session.worker = some worker
  informed : worker.Informed session.display latest ledger

/-- The analysis that the display shows is the one of the text. -/
structure Analysed (session : Session) (env : Environment) : Prop where
  reads : env.files.read? session.settings.documentPath = some session.text
  shown : session.view.sandboxFindings =
    Finding.shownAll session.document (env.findings session.settings.documentPath)
  flagged : session.display.signals.flags.sandbox =
    (env.findings session.settings.documentPath).any Finding.isError

/-- What the worker was told last about a session. -/
def feed (session : Session) : Feed := ⟨session.text, session.display.signals.flags.sandbox⟩

structure Coherent (session : Session) (env : Environment) (worker : Worker)
    (ledger : List Answer) : Prop where
  running : session.Running env worker (some session.feed) ledger
  analysed : session.Analysed env

theorem analysedBy_coherent {session : Session} {env : Environment} {worker : Worker}
    {latest : Option Feed} {ledger : List Answer}
    (running : session.Running env worker latest ledger)
    (reads : env.files.read? session.settings.documentPath = some session.text) :
    ∃ told, (session.analysedBy env).Coherent env told ledger ∧
      (session.analysedBy env).document = session.document := by
  let findings := env.findings session.settings.documentPath
  let localError := findings.any Finding.isError
  let shown := (session.display.byHost (.publish (Finding.shownAll session.document
    findings))).byHost (.flag localError)
  let told := worker.submit (.content session.text localError)
  let next := session.analysedBy env
  have standing := running.informed.displayed.standing
  have document : shown.view.document = session.document :=
    (View.publish_of_standing standing .sandbox _).2
  have flags : shown.signals.flags.sandbox = localError := by
    simp [shown, Display.byHost, Display.setSandbox, Signals.setSandbox]
  have feed : next.feed = ⟨session.text, localError⟩ := by
    show Feed.mk shown.view.document.text shown.signals.flags.sandbox = _
    rw [document, flags]
    rfl
  have working : next.worker = some told := by
    show session.worker.map (fun worker => worker.submit (.content shown.view.document.text
      localError)) = some told
    rw [running.working, document]
    rfl
  have published := Worker.byHost_informed (.publish (Finding.shownAll session.document findings))
    running.informed
  have informed : told.Informed shown (some next.feed) ledger := by
    rw [feed]
    exact Worker.submit_informed (.content session.text localError)
      (Worker.byHost_informed (.flag localError) published)
  refine ⟨told, ⟨⟨rfl, running.live, working, informed⟩, ?_⟩, document⟩
  refine ⟨reads.trans (congrArg (fun doc => some doc.text) document.symm), ?_, flags⟩
  refine (View.findings_publish standing .sandbox .sandbox _).trans ?_
  exact congrArg (fun doc => Finding.shownAll doc findings) document.symm

theorem analyze_coherent {session next : Session} {result : Except Failure Unit}
    {env : Environment} {worker : Worker} {latest : Option Feed} {ledger : List Answer}
    (running : session.Running env worker latest ledger)
    (analysed : session.analyze = some (next, result)) :
    ∃ env worker, next.Coherent env worker ledger ∧ next.document = session.document := by
  obtain ⟨files, _, reads, rfl, _⟩ := exists_of_analyze running.sandbox running.live analysed
  let mirrored : Environment := { env with files }
  have holding : ({ session with sandbox := some mirrored } : Session).Running mirrored worker
      latest ledger := ⟨rfl, running.live, running.working, running.informed⟩
  obtain ⟨told, coherent, document⟩ := analysedBy_coherent holding reads
  exact ⟨mirrored, told, coherent, document⟩

/-! ## Every action keeps a session coherent -/

theorem lint_coherent {session next : Session} {result : Except Failure Unit}
    {env : Environment} {worker : Worker} {latest : Option Feed} {ledger : List Answer}
    (running : session.Running env worker latest ledger)
    (linted : session.lint = some (next, result)) :
    ∃ env worker, next.Coherent env worker ledger ∧ next.document = session.document := by
  have reloaded : session.view.dispatch .reconfigure = .ok (session.view, ⟨false, true⟩) := by
    have standing : session.view.destroyed = false := running.informed.displayed.standing
    simp [View.dispatch, standing]
  have analysed : session.lint = session.analyze := by
    simp only [lint, dispatch, reloaded]
    rfl
  exact analyze_coherent running (analysed ▸ linted)

theorem addLibrary_coherent {session next : Session} {path : String} {content : Text}
    {result : Except Failure FileChange} {env : Environment} {worker : Worker}
    {ledger : List Answer} (coherent : session.Coherent env worker ledger)
    (added : session.addLibrary path content = some (next, result)) :
    ∃ env worker, next.Coherent env worker ledger ∧ next.document = session.document := by
  have running := coherent.running
  rcases addLibrary_cases added with rfl | ⟨_, _, _, wrote, linted, rfl⟩
  · exact ⟨env, worker, coherent, rfl⟩
  · rw [running.sandbox, Environment.writeLibrary, Environment.write_of_live running.live] at wrote
    cases wrote
    let holding : Environment := { env with files := (env.files.write path content).1 }
    have written : ({ session with sandbox := some holding } : Session).Running holding worker
        (some session.feed) ledger := ⟨rfl, running.live, running.working, running.informed⟩
    obtain ⟨env, worker, after, document⟩ := lint_coherent written linted
    exact ⟨env, worker, after, document⟩

theorem dispatch_coherent {session next : Session} {transaction : Transaction}
    {result : Except Failure Unit} {env : Environment} {worker : Worker} {ledger : List Answer}
    (coherent : session.Coherent env worker ledger)
    (dispatched : session.dispatch transaction = some (next, result)) :
    ∃ env worker, next.Coherent env worker ledger := by
  cases dispatch_ends dispatched with
  | refused refused => exact ⟨env, worker, coherent⟩
  | irrelevant carried irrelevant =>
      obtain ⟨document, changed, same⟩ := View.dispatch_ok carried
      rw [changed, same irrelevant]
      exact ⟨env, worker, coherent⟩
  | @analysed view update _ _ carried relevant analysed =>
      have shown : session.display.byHost (.transact transaction) =
          { session.display with view } := by
        have moves : session.display.view.dispatch transaction = .ok (view, update) := carried
        simp only [Display.byHost, moves]
      have informed := Worker.byHost_informed (.transact transaction) coherent.running.informed
      rw [shown] at informed
      have moved : ({ session with display := { session.display with view } } :
          Session).Running env worker (some session.feed) ledger :=
        ⟨coherent.running.sandbox, coherent.running.live, coherent.running.working, informed⟩
      obtain ⟨mirrored, told, after, _⟩ := analyze_coherent moved analysed
      exact ⟨mirrored, told, after⟩

theorem edit_coherent {session next : Session} {change : Change}
    {result : Except Failure EditOutcome} {env : Environment} {worker : Worker}
    {ledger : List Answer} (coherent : session.Coherent env worker ledger)
    (edited : session.edit change = some (next, result)) :
    ∃ env worker, next.Coherent env worker ledger := by
  rcases edit_cases edited with ⟨rfl, _⟩ | ⟨_, _, _, _, dispatched, _⟩
  · exact ⟨env, worker, coherent⟩
  · exact dispatch_coherent coherent dispatched

theorem Coherent.of_informed {session : Session} {env : Environment} {worker told : Worker}
    {display : Display} {ledger later : List Answer}
    (coherent : session.Coherent env worker ledger)
    (same : session.display.SameHostSide display)
    (informed : told.Informed display (some session.feed) later) :
    ({ session with worker := some told, display } : Session).Coherent env told later := by
  obtain ⟨document, findings, flag⟩ := same
  have feed : ({ session with worker := some told, display } : Session).feed = session.feed := by
    show Feed.mk display.view.document.text display.signals.flags.sandbox = _
    rw [document, flag]
    rfl
  refine ⟨⟨coherent.running.sandbox, coherent.running.live, rfl, ?_⟩, ?_⟩
  · rw [feed]
    exact informed
  · refine ⟨?_, ?_, flag.trans coherent.analysed.flagged⟩
    · exact coherent.analysed.reads.trans (congrArg (fun doc => some doc.text) document.symm)
    · refine (findings.trans coherent.analysed.shown).trans ?_
      exact congrArg (fun doc =>
        Finding.shownAll doc (env.findings session.settings.documentPath)) document.symm

theorem act_coherent {session next : Session} {env : Environment} {worker : Worker}
    {ledger : List Answer} {action : Action} (coherent : session.Coherent env worker ledger)
    (acted : session.act action = some next) :
    ∃ env worker, next.Coherent env worker (ledger ++ (session.answer? action).toList) := by
  cases action with
  | setCode text =>
      obtain ⟨⟨after, result⟩, replaced, rfl⟩ := Option.map_eq_some_iff.mp acted
      simp only [answer?, Option.toList_none, List.append_nil]
      exact dispatch_coherent coherent replaced
  | edit change =>
      obtain ⟨⟨after, result⟩, edited, rfl⟩ := Option.map_eq_some_iff.mp acted
      simp only [answer?, Option.toList_none, List.append_nil]
      exact edit_coherent coherent edited
  | addLibrary path content =>
      obtain ⟨⟨after, result⟩, added, rfl⟩ := Option.map_eq_some_iff.mp acted
      simp only [answer?, Option.toList_none, List.append_nil]
      obtain ⟨env, worker, after, _⟩ := addLibrary_coherent coherent added
      exact ⟨env, worker, after⟩
  | lint =>
      obtain ⟨⟨after, result⟩, linted, rfl⟩ := Option.map_eq_some_iff.mp acted
      simp only [answer?, Option.toList_none, List.append_nil]
      exact dispatch_coherent coherent linted
  | requestFlush waiter =>
      cases acted
      simp only [answer?, Option.toList_none, List.append_nil]
      have asked := coherent.of_informed ⟨rfl, rfl, rfl⟩
        (Worker.submit_informed (.flush waiter) coherent.running.informed)
      refine ⟨env, worker.submit (.flush waiter), ?_⟩
      rw [requestFlush, coherent.running.working, Option.map_some]
      exact asked
  | takeFailures =>
      cases acted
      simp only [answer?, Option.toList_none, List.append_nil]
      let emptied : Display := { session.display with failures := [] }
      have informed : worker.Informed emptied (some session.feed) ledger :=
        Worker.byHost_informed .collect coherent.running.informed
      have taken : ({ session with worker := some worker, display := emptied } :
          Session).Coherent env worker ledger := coherent.of_informed ⟨rfl, rfl, rfl⟩ informed
      rw [← coherent.running.working] at taken
      exact ⟨env, worker, taken⟩
  | meet event =>
      obtain ⟨_, after, shown, working, step, rfl⟩ := workerStep_eq_some acted
      cases coherent.running.working.symm.trans working
      have same := Worker.transition_sameHostSide (Worker.step_transition step)
      have informed := Worker.step_informed coherent.running.informed step
      refine ⟨env, after, ?_⟩
      simp only [answer?, working, Option.bind_some]
      exact coherent.of_informed same informed

theorem play_coherent {session final : Session} {env : Environment} {worker : Worker}
    {ledger : List Answer} (actions : List Action) (coherent : session.Coherent env worker ledger)
    (played : session.play actions = some final) :
    ∃ env worker, final.Coherent env worker (ledger ++ session.answersAlong actions) := by
  induction actions generalizing session env worker ledger with
  | nil =>
      cases played
      exact ⟨env, worker, by simpa [answersAlong] using coherent⟩
  | cons action rest ih =>
      obtain ⟨next, first, later⟩ := Option.bind_eq_some_iff.mp played
      obtain ⟨_, _, after⟩ := act_coherent coherent first
      obtain ⟨env, worker, last⟩ := ih after later
      refine ⟨env, worker, ?_⟩
      simpa [answersAlong, first, List.append_assoc] using last

theorem openEditable_coherent {manager ended : Manager} {text : Text}
    {settings : SessionSettings} {session : Session}
    (opened : openEditable manager text settings = some (ended, .ok session)) :
    ∃ env worker, session.Coherent env worker [] ∧ session.text = text := by
  obtain ⟨env, next, acquired, analysed, rfl⟩ := exists_of_openEditable opened
  have live := Manager.acquire_live (congrArg Prod.snd acquired)
  have running : (unanalysed settings text env).Running env (.start settings.debounce) none [] :=
    ⟨rfl, live, rfl, Worker.start_informed settings.debounce rfl rfl⟩
  obtain ⟨env, worker, coherent, document⟩ := analyze_coherent running analysed
  refine ⟨env, worker, ⟨?_, ?_⟩, congrArg Document.text document⟩
  · exact ⟨coherent.running.sandbox, coherent.running.live, coherent.running.working,
      coherent.running.informed⟩
  · exact ⟨coherent.analysed.reads, coherent.analysed.shown, coherent.analysed.flagged⟩

end Session

end StrategyDesk
