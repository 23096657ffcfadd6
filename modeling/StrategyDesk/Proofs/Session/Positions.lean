import StrategyDesk.Proofs.Document.FaultLine
import StrategyDesk.Proofs.Session.Run
import StrategyDesk.Proofs.Worker.Marks

/-!
# Where findings stay

The findings of the sandbox are computed anew for each text, and stay inside it. A rejection is
computed for the document in which it arrives and stays where it is while the document changes,
until another answer counts: it is inside the document exactly if that still reaches to its end.
-/

set_option autoImplicit false

namespace StrategyDesk

def Diagnostic.Within (diagnostic : Diagnostic) (doc : Document) : Prop :=
  diagnostic.start ≤ diagnostic.stop ∧ diagnostic.stop ≤ doc.length

theorem Finding.shownIn_within (finding : Finding) (doc : Document) :
    (finding.shownIn doc).Within doc := by
  show min finding.start doc.length ≤ min (finding.start + finding.length) doc.length ∧
    min (finding.start + finding.length) doc.length ≤ doc.length
  omega

theorem Rejection.diagnostic_within (rejection : Rejection) (doc : Document) :
    (rejection.diagnostic doc).Within doc := by
  have range := Document.faultLine_range doc rejection.index
  show (doc.faultLine rejection.index).start ≤ (doc.faultLine rejection.index).stop ∧
    (doc.faultLine rejection.index).stop ≤ doc.length
  cases found : Document.rangeAt? doc.contentRanges rejection.index with
  | none =>
      rw [found, Option.getD_none, Prod.mk.injEq] at range
      omega
  | some place =>
      rw [found, Option.getD_some] at range
      have member := Document.contentRanges_of_rangeAt? found
      have filled := Document.contentRanges_pos member
      have inside := Document.contentRanges_stop_le member
      rw [← range] at filled inside
      exact ⟨Nat.le_of_lt filled, inside⟩

/-! ## The rejection that is shown -/

namespace Session

def markAfter (session : Session) (mark : Option Mark) : Action → Option Mark
  | .meet event =>
      match session.worker with
      | some worker => worker.markAfter session.document mark event
      | none => mark
  | _ => mark

def markAlong (session : Session) (mark : Option Mark) : List Action → Option Mark
  | [] => mark
  | action :: rest =>
      match session.act action with
      | some next => next.markAlong (session.markAfter mark action) rest
      | none => mark

/-! ## What the host leaves alone -/

theorem analyze_validatorFindings {session next : Session} {result : Except Failure Unit}
    (analysed : session.analyze = some (next, result)) :
    next.view.validatorFindings = session.view.validatorFindings := by
  cases analyze_ends analysed with
  | unneeded bare => rfl
  | refused holds refused => rfl
  | carriedOut holds synced =>
      show (session.view.publish .sandbox _).validatorFindings = _
      unfold View.publish
      split <;> rfl

theorem dispatch_validatorFindings {session next : Session} {transaction : Transaction}
    {result : Except Failure Unit}
    (dispatched : session.dispatch transaction = some (next, result)) :
    next.view.validatorFindings = session.view.validatorFindings := by
  have moved {view : View} {update : Update}
      (carried : session.view.dispatch transaction = .ok (view, update)) :
      view.validatorFindings = session.view.validatorFindings := by
    obtain ⟨document, changed, _⟩ := View.dispatch_ok carried
    rw [changed]
  cases dispatch_ends dispatched with
  | refused refused => rfl
  | irrelevant carried irrelevant => exact moved carried
  | analysed carried relevant analysed =>
      exact (analyze_validatorFindings analysed).trans (moved carried)

theorem addLibrary_validatorFindings {session next : Session} {path : String} {content : Text}
    {result : Except Failure FileChange}
    (added : session.addLibrary path content = some (next, result)) :
    next.view.validatorFindings = session.view.validatorFindings := by
  rcases addLibrary_cases added with rfl | ⟨_, _, _, _, linted, _⟩
  · rfl
  · exact (dispatch_validatorFindings linted).trans rfl

theorem edit_validatorFindings {session next : Session} {change : Change}
    {result : Except Failure EditOutcome} (edited : session.edit change = some (next, result)) :
    next.view.validatorFindings = session.view.validatorFindings := by
  rcases edit_cases edited with ⟨rfl, _⟩ | ⟨_, _, _, _, dispatched, _⟩
  · rfl
  · exact dispatch_validatorFindings dispatched

/-! ## Runs -/

theorem act_marked {session next : Session} {mark : Option Mark} {action : Action}
    (standing : session.view.destroyed = false)
    (marked : session.view.validatorFindings = mark.toList.map Mark.diagnostic)
    (acted : session.act action = some next) :
    next.view.validatorFindings =
      (session.markAfter mark action).toList.map Mark.diagnostic := by
  cases action with
  | setCode text =>
      obtain ⟨⟨after, result⟩, replaced, rfl⟩ := Option.map_eq_some_iff.mp acted
      exact (dispatch_validatorFindings replaced).trans marked
  | edit change =>
      obtain ⟨⟨after, result⟩, edited, rfl⟩ := Option.map_eq_some_iff.mp acted
      exact (edit_validatorFindings edited).trans marked
  | addLibrary path content =>
      obtain ⟨⟨after, result⟩, added, rfl⟩ := Option.map_eq_some_iff.mp acted
      exact (addLibrary_validatorFindings added).trans marked
  | lint =>
      obtain ⟨⟨after, result⟩, linted, rfl⟩ := Option.map_eq_some_iff.mp acted
      exact (dispatch_validatorFindings linted).trans marked
  | requestFlush waiter =>
      cases acted
      exact marked
  | takeFailures =>
      cases acted
      exact marked
  | meet event =>
      obtain ⟨worker, after, shown, working, step, rfl⟩ := workerStep_eq_some acted
      rw [markAfter, working]
      exact Worker.transition_marked standing marked (Worker.step_transition step)

theorem play_marked {session final : Session} {env : Environment} {worker : Worker}
    {ledger : List Answer} {mark : Option Mark} (actions : List Action)
    (coherent : session.Coherent env worker ledger)
    (marked : session.view.validatorFindings = mark.toList.map Mark.diagnostic)
    (played : session.play actions = some final) :
    final.view.validatorFindings =
      (session.markAlong mark actions).toList.map Mark.diagnostic := by
  induction actions generalizing session env worker ledger mark with
  | nil =>
      cases played
      exact marked
  | cons action rest ih =>
      obtain ⟨next, first, later⟩ := Option.bind_eq_some_iff.mp played
      obtain ⟨_, _, after⟩ := act_coherent coherent first
      rw [markAlong, first]
      exact ih after (act_marked coherent.running.informed.displayed.standing marked first) later

theorem openEditable_validatorFindings {manager supplier : Manager} {text : Text}
    {settings : SessionSettings} {session : Session}
    (opened : openEditable manager text settings = some (supplier, .ok session)) :
    session.view.validatorFindings = [] := by
  obtain ⟨env, next, _, analysed, rfl⟩ := exists_of_openEditable opened
  exact analyze_validatorFindings analysed

/-- In every run of a session for editing the findings of the sandbox are inside the document. What
is shown of the validator is the rejection that counted last, in the place that it was given when it
came, which was inside the document then. So all that is shown is inside the document exactly if the
document still reaches to the end of that place. -/
theorem displayed_within_iff {manager supplier : Manager} {text : Text}
    {settings : SessionSettings} {session final : Session} {actions : List Action}
    (opened : openEditable manager text settings = some (supplier, .ok session))
    (played : session.play actions = some final) :
    (∀ finding ∈ final.view.sandboxFindings, finding.Within final.document) ∧
    final.view.validatorFindings =
      (session.markAlong none actions).toList.map Mark.diagnostic ∧
    (∀ mark, session.markAlong none actions = some mark →
      mark.diagnostic.Within mark.document) ∧
    ((∀ finding ∈ final.view.allFindings, finding.Within final.document) ↔
      ∀ mark, session.markAlong none actions = some mark →
        mark.diagnostic.stop ≤ final.document.length) := by
  obtain ⟨_, _, start, _⟩ := openEditable_coherent opened
  obtain ⟨env, worker, coherent⟩ := play_coherent actions start played
  have marked : final.view.validatorFindings =
      (session.markAlong none actions).toList.map Mark.diagnostic :=
    play_marked actions start (openEditable_validatorFindings opened) played
  have sandbox : ∀ finding ∈ final.view.sandboxFindings, finding.Within final.document := by
    intro diagnostic member
    rw [coherent.analysed.shown] at member
    obtain ⟨finding, _, rfl⟩ := List.mem_map.mp member
    exact finding.shownIn_within final.document
  refine ⟨sandbox, marked, fun mark _ => mark.rejection.diagnostic_within mark.document, ?_⟩
  unfold View.allFindings
  rw [marked]
  constructor
  · intro within mark shown
    refine (within mark.diagnostic (List.mem_append_right _ ?_)).2
    rw [shown]
    exact List.mem_singleton_self _
  · intro reaches finding member
    rcases List.mem_append.mp member with own | remote
    · exact sandbox finding own
    · obtain ⟨mark, shown, rfl⟩ := List.mem_map.mp remote
      exact ⟨(mark.rejection.diagnostic_within mark.document).1,
        reaches mark (Option.mem_toList.mp shown)⟩

/-- The text `bad` is rejected, and then all of it is removed: its rejection stays on the three
characters that are gone. -/
theorem rejection_outlasts_text :
    let settings : SessionSettings := ⟨"/s", 500, 0, []⟩
    let manager : Manager :=
      .create ⟨fun _ => .ok .empty⟩ ⟨fun _ _ => .ok (.reporting [])⟩ ⟨.es5⟩
    let files := ((FileSystem.onSnapshot .empty).write "/s" ['b', 'a', 'd']).1
    let env : Environment := .create s!"sandbox-{0}" files (.reporting [])
    let features : Features := .editable ⟨0⟩ []
    let session : Session := ⟨settings, some ⟨0⟩, some env,
      some ((Worker.start 500).submit (.content ['b', 'a', 'd'] false)),
      ⟨⟨features, ⟨['b', 'a', 'd']⟩, [], [], 1, false⟩, .quiet, []⟩, true⟩
    let rejection : Rejection := ⟨"unexpected token", 1, 1, 1⟩
    let actions : List Action :=
      [.meet (.command 0), .meet (.expiry 500),
        .meet (.ended 1 (.answered (.ok (.rejected rejection)))), .setCode []]
    let shown : Diagnostic := .ofValidator 0 3 "unexpected token"
    let worker : Worker :=
      ⟨⟨500, none, some ⟨1, ['b', 'a', 'd'], some .rejected⟩, 2, true⟩, [.content [] false], [],
        [], []⟩
    let final : Session := ⟨settings, some ⟨0⟩,
      some { env with files := (files.write "/s" []).1 }, some worker,
      ⟨⟨features, ⟨[]⟩, [], [shown], 3, false⟩, ⟨⟨false, true⟩, true, 1⟩, []⟩, true⟩
    (∃ supplier, openEditable manager ['b', 'a', 'd'] settings = some (supplier, .ok session)) ∧
      session.play actions = some final ∧
        session.markAlong none actions = some ⟨rejection, ⟨['b', 'a', 'd']⟩⟩ ∧
          ¬ ∀ finding ∈ final.view.allFindings, finding.Within final.document := by
  intro settings manager files env features session rejection actions shown worker final
  obtain ⟨supplier, opened⟩ : ∃ supplier,
      openEditable manager ['b', 'a', 'd'] settings = some (supplier, .ok session) := ⟨_, rfl⟩
  have played : session.play actions = some final := rfl
  have mark : session.markAlong none actions = some ⟨rejection, ⟨['b', 'a', 'd']⟩⟩ := rfl
  obtain ⟨_, _, _, within⟩ := displayed_within_iff opened played
  refine ⟨⟨supplier, opened⟩, played, mark, fun inside => ?_⟩
  have reaches := within.mp inside _ mark
  exact absurd reaches (by decide)

end Session

end StrategyDesk
