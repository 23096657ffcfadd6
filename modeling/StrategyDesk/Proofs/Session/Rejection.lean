import StrategyDesk.Proofs.Document.FaultLine
import StrategyDesk.Proofs.Session.Run

/-!
# Where a session shows a rejection

A rejection speaks about the text that was sent, and is shown in the document as it is when the
rejection arrives. This is the right place only as far as the lines of both texts agree.
-/

set_option autoImplicit false

namespace StrategyDesk

/-- Whether the latest request is not answered yet, with the number and the content of it. -/
def Session.Awaits (session : Session) (number : Nat) (content : Text) : Prop :=
  ∃ worker issued, session.worker = some worker ∧ worker.pipeline.lastIssued = some issued ∧
    issued.number = number ∧ issued.content = content ∧ issued.verdict = none

theorem Worker.rejected_shown {worker next : Worker} {display shown : Display} {number : Nat}
    {rejection : Rejection} (displayed : worker.Displayed display)
    (counts : (worker.pipeline.settle number .rejected).2 = true)
    (transition : Transition worker display next shown
      (.ended number (.answered (.ok (.rejected rejection))))) :
    shown.view.validatorFindings = [rejection.diagnostic display.view.document] := by
  cases transition with
  | answered _ _ calling queue calls pipeline effect =>
      have taken := effect.trans (if_pos counts)
      rw [taken]
      exact View.findings_publish displayed.standing .validator .validator _

namespace Session

theorem Coherent.rejected_shown {before after : Session} {env : Environment} {worker : Worker}
    {ledger : List Answer} {number : Nat} {content : Text} {rejection : Rejection}
    (coherent : before.Coherent env worker ledger) (awaits : before.Awaits number content)
    (ended : before.workerStep (.ended number (.answered (.ok (.rejected rejection)))) =
      some after) :
    (∃ call ∈ worker.calls, call.number = number ∧ call.content = content) ∧
      after.document = before.document ∧
        after.view.validatorFindings = [rejection.diagnostic before.document] := by
  obtain ⟨_, issued, same, last, rfl, rfl, isOpen⟩ := awaits
  cases coherent.running.working.symm.trans same
  obtain ⟨_, next, shown, working, step, rfl⟩ := workerStep_eq_some ended
  cases same.symm.trans working
  have transition := Worker.step_transition step
  have informed := coherent.running.informed
  have counts := (Pipeline.settle_accepts_iff worker.pipeline issued.number .rejected).mpr
    ⟨issued, last, rfl, isOpen⟩
  refine ⟨?_, (Worker.transition_sameHostSide transition).1,
    Worker.rejected_shown informed.displayed counts transition⟩
  cases transition with
  | answered _ _ calling queue calls pipeline effect =>
      obtain ⟨call, member, number⟩ := calling
      exact ⟨call, member, number, (informed.numbered.latest_call issued last call member number).1⟩

/-- In every run of a session for editing: a rejection of the text that was sent last is shown in
the document as it is then. What is shown is what the text that was sent would show exactly if the
last line that is not empty and begins at or before the index stands at the same place in both; and
every rejection is shown so exactly if all the lines that are not empty do. -/
theorem rejection_shown_on_current_text {manager supplier : Manager} {text content : Text}
    {settings : SessionSettings} {session before after : Session} {actions : List Action}
    {number : Nat} {rejection : Rejection}
    (opened : openEditable manager text settings = some (supplier, .ok session))
    (played : session.play actions = some before) (awaits : before.Awaits number content)
    (ended : before.workerStep (.ended number (.answered (.ok (.rejected rejection)))) =
      some after) :
    (∃ worker, before.worker = some worker ∧
      ∃ call ∈ worker.calls, call.number = number ∧ call.content = content) ∧
    after.view.validatorFindings = [rejection.diagnostic before.document] ∧
    (after.view.validatorFindings = [rejection.diagnostic ⟨content⟩] ↔
      Document.rangeAt? before.document.contentRanges rejection.index =
        Document.rangeAt? (Document.mk content).contentRanges rejection.index) ∧
    ((∀ other : Rejection, other.diagnostic before.document = other.diagnostic ⟨content⟩) ↔
      before.document.contentRanges = (Document.mk content).contentRanges) := by
  obtain ⟨_, _, start, _⟩ := openEditable_coherent opened
  obtain ⟨env, worker, coherent⟩ := play_coherent actions start played
  obtain ⟨call, _, shown⟩ := coherent.rejected_shown awaits ended
  refine ⟨⟨worker, coherent.running.working, call⟩, shown, ?_, ?_⟩
  · rw [shown, List.cons.injEq, eq_self_iff_true, and_true]
    exact Document.diagnostic_eq_iff rejection before.document ⟨content⟩
  · rw [← Document.rangeAt?_eq_iff]
    constructor
    · intro same offset
      exact (Document.diagnostic_eq_iff ⟨"", 0, 0, offset⟩ _ _).mp (same _)
    · intro same other
      exact (Document.diagnostic_eq_iff other _ _).mpr (same other.index)

/-- The text `bad` is sent and gets a line above it before the answer comes: its rejection is shown
on the new line, and not where it is in the text that was sent. -/
theorem rejection_shown_out_of_place :
    let settings : SessionSettings := ⟨"/s", 500, 0, []⟩
    let manager : Manager :=
      .create ⟨fun _ => .ok .empty⟩ ⟨fun _ _ => .ok (.reporting [])⟩ ⟨.es5⟩
    let files := ((FileSystem.onSnapshot .empty).write "/s" ['b', 'a', 'd']).1
    let env : Environment := .create s!"sandbox-{0}" files (.reporting [])
    let features : Features := .editable ⟨0⟩ []
    let session : Session := ⟨settings, some ⟨0⟩, some env,
      some ((Worker.start 500).submit (.content ['b', 'a', 'd'] false)),
      ⟨⟨features, ⟨['b', 'a', 'd']⟩, [], [], 1, false⟩, .quiet, []⟩, true⟩
    let longer : Text := ['x', '\n', 'b', 'a', 'd']
    let actions : List Action :=
      [.meet (.command 0), .meet (.expiry 500), .setCode longer, .meet (.command 600)]
    let worker : Worker :=
      ⟨⟨500, some ⟨longer, 1100⟩, some ⟨1, ['b', 'a', 'd'], none⟩, 2, true⟩, [],
        [⟨1, ['b', 'a', 'd'], false⟩], [], []⟩
    let before : Session := ⟨settings, some ⟨0⟩,
      some { env with files := (files.write "/s" longer).1 }, some worker,
      ⟨⟨features, ⟨longer⟩, [], [], 2, false⟩, ⟨⟨false, true⟩, true, 1⟩, []⟩, true⟩
    let rejection : Rejection := ⟨"unexpected token", 1, 1, 1⟩
    (∃ supplier, openEditable manager ['b', 'a', 'd'] settings = some (supplier, .ok session)) ∧
      session.play actions = some before ∧ before.Awaits 1 ['b', 'a', 'd'] ∧
      ∃ after, before.workerStep (.ended 1 (.answered (.ok (.rejected rejection)))) =
          some after ∧
        after.view.validatorFindings = [.ofValidator 0 1 "unexpected token"] ∧
        after.view.validatorFindings ≠ [rejection.diagnostic ⟨['b', 'a', 'd']⟩] := by
  intro settings manager files env features session longer actions worker before rejection
  obtain ⟨supplier, opened⟩ : ∃ supplier,
      openEditable manager ['b', 'a', 'd'] settings = some (supplier, .ok session) := ⟨_, rfl⟩
  have played : session.play actions = some before := rfl
  have awaits : before.Awaits 1 ['b', 'a', 'd'] :=
    ⟨worker, ⟨1, ['b', 'a', 'd'], none⟩, rfl, rfl, rfl, rfl, rfl⟩
  have possible : (before.workerStep (.ended 1 (.answered (.ok (.rejected rejection))))).isSome =
      true := rfl
  obtain ⟨after, ended⟩ := Option.isSome_iff_exists.mp possible
  obtain ⟨_, shown, agrees, _⟩ := rejection_shown_on_current_text opened played awaits ended
  have here : rejection.diagnostic before.document = .ofValidator 0 1 "unexpected token" := by
    decide
  refine ⟨⟨supplier, opened⟩, played, awaits, after, ended, here ▸ shown, fun same => ?_⟩
  exact absurd (agrees.mp same) (by decide)

end Session

end StrategyDesk
