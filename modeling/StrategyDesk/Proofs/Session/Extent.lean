import StrategyDesk.Proofs.Session.Edit
import StrategyDesk.Proofs.Session.Positions

/-!
# How far findings are shown

A finding reaches as far as its start and its length say, and is cut at the end of the document. Its
end is added up before it is cut: where the sum exceeds the words of 64 bits, the program dies over
a finding that it could have shown.
-/

set_option autoImplicit false

namespace StrategyDesk

/-- The program dies over a finding exactly if it is an error or a warning whose end exceeds the
words of 64 bits. Every other error or warning is shown, inside the document, from its start on and
as far as its length says, both cut at the end of the document. -/
theorem Finding.extent_shown_iff (finding : Finding) (doc : Document) :
    (finding.displayed? doc = none ↔
      finding.isShown = true ∧ wordValues 64 ≤ finding.start + finding.length) ∧
    (finding.isShown = false → finding.displayed? doc = some none) ∧
    (finding.isShown = true → finding.start + finding.length < wordValues 64 →
      ∃ diagnostic, finding.displayed? doc = some (some diagnostic) ∧
        diagnostic.message = finding.message ∧
        (diagnostic.severity = .error ↔ finding.isError = true) ∧
        diagnostic.start = min finding.start doc.length ∧
        diagnostic.stop = min (finding.start + finding.length) doc.length ∧
        diagnostic.Within doc) := by
  refine ⟨?_, displayed?_of_hidden doc, fun shown fits => ?_⟩
  · rw [displayed?_eq_none_iff]
    exact ⟨fun fatal => ⟨fatal.shown, fatal.exceeds⟩, fun ⟨shown, exceeds⟩ => ⟨shown, exceeds⟩⟩
  · refine ⟨finding.shownIn doc, displayed?_of_fits doc shown fits, rfl, ?_, rfl, rfl,
      finding.shownIn_within doc⟩
    rw [← finding.shownIn_isError doc, Diagnostic.isError, beq_iff_eq]

/-- From the second of three characters on, the largest length is fatal. -/
theorem Finding.largest_length_fatal :
    let finding : Finding := .error 1 18446744073709551615 1005 "')' expected."
    let doc : Document := ⟨['a', 'b', 'c']⟩
    finding.start < wordValues 64 ∧ finding.length < wordValues 64 ∧
      min (finding.start + finding.length) doc.length = 3 ∧ finding.displayed? doc = none := by
  intro finding doc
  have died := (extent_shown_iff finding doc).1.mpr ⟨rfl, by decide +kernel⟩
  exact ⟨by decide +kernel, by decide +kernel, rfl, died⟩

namespace Session

/-- In every state that a session for editing reaches: the program survives another text of the host
exactly if no finding about it is fatal, and then shows all errors and warnings about it, each cut
at its end. -/
theorem findings_cut_iff {manager supplier : Manager} {text : Text}
    {settings : SessionSettings} {session final : Session} {actions : List Action}
    (opened : openEditable manager text settings = some (supplier, .ok session))
    (played : session.play actions = some final) {other : Text} (different : other ≠ final.text) :
    (final.setCode other = none ↔
      ∃ finding ∈ final.findingsIn other, finding.IsFatal) ∧
    ∀ next result, final.setCode other = some (next, result) →
      next.view.sandboxFindings =
        ((final.findingsIn other).filter Finding.isShown).map (Finding.shownIn ⟨other⟩) := by
  obtain ⟨_, _, start, _⟩ := openEditable_coherent opened
  obtain ⟨env, worker, coherent⟩ := play_coherent actions start played
  have standing := coherent.running.informed.displayed.standing
  let change : Change := .replaceAll final.document other
  have fits : change.FitsIn final.document := ⟨Nat.zero_le _, Nat.le_refl _⟩
  have replaced : final.document.spliced change = ⟨other⟩ := by
    simp [Document.spliced, change, Change.replaceAll, Document.length]
  have moved : final.setCode other = (final.spliced change).analyze := by
    have unlike : final.document.spliced change ≠ final.document := fun same =>
      different (congrArg Document.text (replaced.symm.trans same))
    rw [setCode, dispatch_of_fits standing fits, if_neg unlike]
  have holding : (final.spliced change).document = ⟨other⟩ := replaced
  have found : (final.spliced change).findingsIn (final.spliced change).text =
      final.findingsIn other := by
    rw [Session.text, holding]
    rfl
  constructor
  · rw [moved, analyze_eq_none_iff, found]
  · intro next result ended
    rw [moved] at ended
    have sandbox : (final.spliced change).sandbox = some env := coherent.running.sandbox
    obtain ⟨files, synced, _, rfl, _⟩ := exists_of_analyze sandbox coherent.running.live ended
    rw [← found, findingsIn_of_synced sandbox synced, ← holding]
    have moving : (final.spliced change).view.destroyed = false := standing
    exact (View.findings_publish moving .sandbox .sandbox _).trans rfl

end Session

end StrategyDesk
