import StrategyDesk.Proofs.Session.Run
import StrategyDesk.Proofs.View.Change

/-!
# What an edit leaves behind

An edit passes the header, the view, the sandbox and the worker in turn. The first two refuse it, if
anyone does, and both before anything was done, so an edit that is not applied leaves the session as
it is. An edit that is applied to a part of the document splices it, and the worker is told of the
text exactly if that became another one.
-/

set_option autoImplicit false

namespace StrategyDesk.Session

variable {session : Session} {env : Environment} {change : Change}

/-- The command that tells of the text and of whether the sandbox finds errors in it. -/
def contentCommand (session : Session) : Command :=
  .content session.text session.display.signals.flags.sandbox

/-! ## An analysis with a live sandbox -/

theorem analyze_tells {next : Session} {result : Except Failure Unit}
    (holds : session.sandbox = some env) (live : env.disposed = false)
    (analysed : session.analyze = some (next, result)) :
    result = .ok () ∧ next.document = session.document ∧
      next.worker = session.worker.map fun worker => worker.submit next.contentCommand := by
  obtain ⟨files, _, _, rfl, rfl⟩ := exists_of_analyze holds live analysed
  let mirrored : Environment := { env with files }
  let localError := (mirrored.findings session.settings.documentPath).any Finding.isError
  have document : (session.analysedBy mirrored).document = session.document := by
    show (session.view.publish .sandbox _).document = session.view.document
    unfold View.publish
    split <;> rfl
  have flag : (session.analysedBy mirrored).display.signals.flags.sandbox = localError := by
    simp [analysedBy, submit, Display.setSandbox, Signals.setSandbox, localError]
  refine ⟨rfl, document, ?_⟩
  rw [contentCommand, flag]
  rfl

/-! ## A change in a live view -/

theorem dispatch_of_idle (standing : session.view.destroyed = false) (idle : change.IsIdle) :
    session.dispatch (.change change) = some (session, .ok ()) := by
  rw [dispatch, View.dispatch_of_idle standing idle]
  rfl

theorem dispatch_of_misfit (standing : session.view.destroyed = false) (busy : ¬ change.IsIdle)
    (misfit : ¬ change.FitsIn session.document) :
    session.dispatch (.change change) =
      some (session, .error (.invalidRange change.start change.stop session.document.length)) := by
  have refused := (View.dispatch_of_busy standing busy).trans (View.carryOut_of_misfit misfit)
  rw [dispatch, refused]
  rfl

/-- The session with a change spliced into its document, before anything else is done. -/
def spliced (session : Session) (change : Change) : Session :=
  { session with
      display := { session.display with
        view := { session.view with document := session.document.spliced change } } }

theorem dispatch_of_fits (standing : session.view.destroyed = false)
    (fits : change.FitsIn session.document) :
    session.dispatch (.change change) =
      if session.document.spliced change = session.document then some (session, .ok ())
      else (session.spliced change).analyze := by
  have told : session.dispatch (.change change) =
      (session.spliced change).onUpdate (session.view.updateOf change) := by
    rw [dispatch, View.dispatch_of_fits standing fits]
    rfl
  have updated : (session.view.updateOf change).isRelevant =
      ((session.document.spliced change).text != session.document.text) := Bool.or_false _
  rw [told, onUpdate, updated]
  by_cases same : session.document.spliced change = session.document
  · have untold : ((session.document.spliced change).text != session.document.text) = false :=
      bne_eq_false_iff_eq.mpr (congrArg Document.text same)
    have unmoved : session.spliced change = session := by
      rw [spliced, same]
      rfl
    rw [if_pos same, untold, unmoved]
    rfl
  · have other : ((session.document.spliced change).text != session.document.text) = true :=
      bne_iff_ne.mpr fun text => same (congrArg Document.mk text)
    rw [if_neg same, other, if_pos rfl]

/-! ## An edit -/

/-- How an edit of a session with a live view and a live sandbox ends. -/
inductive EditEnds (session : Session) (change : Change) :
    Session → Except Failure EditOutcome → Prop where
  | rejected : EditEnds session change session (.ok .rejected)
  | refused (misfit : ¬ change.FitsIn session.document) :
      EditEnds session change session
        (.error (.invalidRange change.start change.stop session.document.length))
  | idle (idle : change.IsIdle) : EditEnds session change session (.ok .applied)
  | spliced {next : Session} (fits : change.FitsIn session.document)
      (document : next.document = session.document.spliced change)
      (untouched : next.document = session.document → next = session)
      (told : next.document ≠ session.document →
        next.worker = session.worker.map fun worker => worker.submit next.contentCommand) :
      EditEnds session change next (.ok .applied)

theorem edit_ends {next : Session} {result : Except Failure EditOutcome}
    (standing : session.view.destroyed = false) (holds : session.sandbox = some env)
    (live : env.disposed = false) (edited : session.edit change = some (next, result)) :
    session.EditEnds change next result := by
  rcases edit_cases edited with ⟨rfl, rfl⟩ | ⟨_, done, _, _, dispatched, rfl⟩
  · exact .rejected
  · by_cases idle : change.IsIdle
    · cases (dispatch_of_idle standing idle).symm.trans dispatched
      exact .idle idle
    · by_cases fits : change.FitsIn session.document
      · rw [dispatch_of_fits standing fits] at dispatched
        split at dispatched
        next same =>
          cases dispatched
          exact .spliced fits same.symm (fun _ => rfl) fun other => absurd rfl other
        next other =>
          have holding : (session.spliced change).sandbox = some env := holds
          obtain ⟨rfl, document, told⟩ := analyze_tells holding live dispatched
          exact .spliced fits document
            (fun unchanged => absurd (document.symm.trans unchanged) other) fun _ => told
      · cases (dispatch_of_misfit standing idle fits).symm.trans dispatched
        exact .refused fits

/-- Only the analysis of a spliced text may keep an edit from ending. -/
theorem fatal_of_edit_eq_none (standing : session.view.destroyed = false)
    (died : session.edit change = none) :
    change.FitsIn session.document ∧
      ∃ finding ∈ session.findingsIn (session.document.spliced change).text,
        finding.IsFatal := by
  unfold edit at died
  split at died
  · cases died
  · split at died
    · have undone : session.dispatch (.change change) = none := by
        cases dispatched : session.dispatch (.change change) with
        | none => rfl
        | some ended =>
            rw [dispatched] at died
            cases died
      by_cases idle : change.IsIdle
      · rw [dispatch_of_idle standing idle] at undone
        cases undone
      · by_cases fits : change.FitsIn session.document
        · rw [dispatch_of_fits standing fits] at undone
          split at undone
          · cases undone
          · exact ⟨fits, (analyze_eq_none_iff _).mp undone⟩
        · rw [dispatch_of_misfit standing idle fits] at undone
          cases undone
    · cases died

/-- In every state that a session for editing reaches: an edit comes to its end, unless it names a
part of the document and the analysis of the spliced text has a finding that is fatal. An edit that
is rejected or fails leaves the whole session as it is, and fails only because it names no part of
the document. An edit that is applied to a part of the document splices its text. If that makes
another text, then the worker got one more command, which carries the new text and the new flag of
the sandbox, that of the analysis of this text; and otherwise the session is as it was. -/
theorem edit_all_or_nothing {manager supplier : Manager} {text : Text} {settings : SessionSettings}
    {session middle : Session} {actions : List Action}
    (opened : openEditable manager text settings = some (supplier, .ok session))
    (played : session.play actions = some middle) (change : Change) :
    (middle.edit change = none → change.FitsIn middle.document ∧
      ∃ finding ∈ middle.findingsIn (middle.document.spliced change).text, finding.IsFatal) ∧
    ∀ next result, middle.edit change = some (next, result) →
      (result ≠ .ok .applied → next = middle) ∧
      (∀ failure, result = .error failure →
        failure = .invalidRange change.start change.stop middle.document.length ∧
          ¬ change.FitsIn middle.document) ∧
      (result = .ok .applied → change.start ≤ change.stop →
        change.stop ≤ middle.document.length →
          next.text =
            middle.text.take change.start ++ change.insert ++ middle.text.drop change.stop ∧
          (next.text = middle.text → next = middle) ∧
          (next.text ≠ middle.text → ∃ env worker,
            next.sandbox = some env ∧ next.Analysed env ∧ middle.worker = some worker ∧
            next.worker = some { worker with queue := worker.queue ++
              [.content next.text next.display.signals.flags.sandbox] })) := by
  obtain ⟨_, _, start, _⟩ := openEditable_coherent opened
  obtain ⟨env, worker, coherent⟩ := play_coherent actions start played
  have standing := coherent.running.informed.displayed.standing
  refine ⟨fatal_of_edit_eq_none standing, fun next result edited => ?_⟩
  obtain ⟨after, told, coherent'⟩ := edit_coherent coherent edited
  cases edit_ends standing coherent.running.sandbox coherent.running.live edited with
  | rejected => exact ⟨fun _ => rfl, nofun, nofun⟩
  | refused misfit =>
      refine ⟨fun _ => rfl, ?_, nofun⟩
      rintro failure ⟨⟩
      exact ⟨rfl, misfit⟩
  | idle idle =>
      refine ⟨fun _ => rfl, nofun, fun _ _ _ => ⟨?_, fun _ => rfl, fun other => absurd rfl other⟩⟩
      exact congrArg Document.text (Document.spliced_of_idle idle middle.document).symm
  | spliced fits document untouched submitted =>
      refine ⟨fun unapplied => absurd rfl unapplied, nofun, fun _ _ _ => ⟨?_, ?_, ?_⟩⟩
      · exact congrArg Document.text document
      · exact fun same => untouched (congrArg Document.mk same)
      · intro changed
        have other : next.document ≠ middle.document := fun same =>
          changed (congrArg Document.text same)
        refine ⟨after, worker, coherent'.running.sandbox, coherent'.analysed,
          coherent.running.working, ?_⟩
        rw [submitted other, coherent.running.working]
        rfl

/-- Behind the header line `a`, a deletion beyond the end of the text fails and leaves no trace, and
a typed letter reaches the worker. -/
theorem edit_refused_then_applied :
    let settings : SessionSettings := ⟨"/s", 500, 1, []⟩
    let manager : Manager :=
      .create ⟨fun _ => .ok .empty⟩ ⟨fun _ _ => .ok (.reporting [])⟩ ⟨.es5⟩
    let files := ((FileSystem.onSnapshot .empty).write "/s" ['a', '\n']).1
    let worker := (Worker.start 500).submit (.content ['a', '\n'] false)
    let session : Session := ⟨settings, some ⟨1⟩,
      some (.create s!"sandbox-{0}" files (.reporting [])), some worker,
      ⟨⟨.editable ⟨1⟩ [], ⟨['a', '\n']⟩, [], [], 1, false⟩, .quiet, []⟩, true⟩
    (∃ supplier, openEditable manager ['a', '\n'] settings = some (supplier, .ok session)) ∧
      session.edit (.deletion 3 4) = some (session, .error (.invalidRange 3 4 2)) ∧
      ∃ next, session.edit (.insertion 2 ['b']) = some (next, .ok .applied) ∧
        next.text = ['a', '\n', 'b'] ∧
        next.worker =
          some { worker with queue := worker.queue ++ [.content ['a', '\n', 'b'] false] } := by
  intro settings manager files worker session
  obtain ⟨supplier, opened⟩ : ∃ supplier,
      openEditable manager ['a', '\n'] settings = some (supplier, .ok session) := ⟨_, rfl⟩
  have reached : session.play [] = some session := rfl
  obtain ⟨kept, misfit⟩ : ∃ kept, session.edit (.deletion 3 4) =
      some (kept, .error (.invalidRange 3 4 2)) := ⟨_, rfl⟩
  obtain ⟨next, applied, found⟩ : ∃ next,
      session.edit (.insertion 2 ['b']) = some (next, .ok .applied) ∧
        next.display.signals.flags.sandbox = false := ⟨_, rfl, rfl⟩
  have unapplied := ((edit_all_or_nothing opened reached (.deletion 3 4)).2 _ _ misfit).1 nofun
  obtain ⟨text, _, changed⟩ :=
    ((edit_all_or_nothing opened reached (.insertion 2 ['b'])).2 _ _ applied).2.2 rfl
      (by decide) (by decide)
  replace text : next.text = ['a', '\n', 'b'] := text
  obtain ⟨_, _, _, _, working, told⟩ := changed (by rw [text]; decide)
  cases working
  rw [unapplied] at misfit
  refine ⟨⟨supplier, opened⟩, misfit, next, applied, text, ?_⟩
  rw [told, text, found]

end StrategyDesk.Session
