import StrategyDesk.Proofs.Document.Splice
import StrategyDesk.View

/-!
# Changes in a view

A view carries out a change as its document does, and says whether the text is another one. There is
one exception: a change that inserts nothing at one position is taken for done without asking the
document, so it is not refused where the document has no such position.
-/

set_option autoImplicit false

namespace StrategyDesk

namespace Change

/-- Whether the change names a part of the document. -/
def FitsIn (change : Change) (doc : Document) : Prop :=
  change.start ≤ change.stop ∧ change.stop ≤ doc.length

def IsIdle (change : Change) : Prop := change.start = change.stop ∧ change.insert = []

instance (change : Change) (doc : Document) : Decidable (change.FitsIn doc) :=
  inferInstanceAs (Decidable (_ ∧ _))

instance (change : Change) : Decidable change.IsIdle := inferInstanceAs (Decidable (_ ∧ _))

end Change

namespace Document

def spliced (doc : Document) (change : Change) : Document :=
  ⟨doc.text.take change.start ++ change.insert ++ doc.text.drop change.stop⟩

theorem apply_of_fits {doc : Document} {change : Change} (fits : change.FitsIn doc) :
    doc.apply change = .ok (doc.spliced change) := by
  obtain ⟨ordered, inside⟩ := fits
  have accepted : ¬ (change.start > change.stop ∨ change.stop > doc.length) := by omega
  rw [apply, replace, if_neg accepted]
  rfl

theorem apply_of_misfit {doc : Document} {change : Change} (misfit : ¬ change.FitsIn doc) :
    doc.apply change = .error (.invalidRange change.start change.stop doc.length) := by
  have refused : change.start > change.stop ∨ change.stop > doc.length := by
    unfold Change.FitsIn at misfit
    omega
  rw [apply, replace, if_pos refused]

theorem spliced_of_idle {change : Change} (idle : change.IsIdle) (doc : Document) :
    doc.spliced change = doc := by
  obtain ⟨onePlace, nothing⟩ := idle
  have whole : doc.text.take change.start ++ change.insert ++ doc.text.drop change.stop =
      doc.text := by
    rw [nothing, onePlace, List.append_nil, List.take_append_drop]
  exact congrArg Document.mk whole

end Document

/-! ## The buffer of a text -/

namespace Document

variable {doc : Document} {change : Change}

def buffer (doc : Document) : Buffer := .ofText (.ofList doc.text)

theorem buffer_text (doc : Document) : doc.buffer.text.toList = doc.text := String.toList_ofList

theorem buffer_length (doc : Document) : doc.buffer.length = doc.length := by
  have counted : doc.buffer.length = doc.buffer.text.toList.length :=
    (Buffer.inStep_ofText (.ofList doc.text)).length
  rw [counted, buffer_text]
  rfl

theorem buffer_apply_of_fits (fits : change.FitsIn doc) :
    doc.buffer.apply change = some ((doc.spliced change).buffer, .ok ()) := by
  have inside : change.stop ≤ doc.buffer.length := doc.buffer_length ▸ fits.2
  rw [Buffer.apply, Buffer.replace_inside _ fits.1 inside, buffer_text, String.toList_ofList]
  rfl

theorem buffer_apply_of_misfit (misfit : ¬ change.FitsIn doc) :
    doc.buffer.apply change =
      some (doc.buffer, .error (.invalidRange change.start change.stop doc.length)) := by
  have outside : ¬ (change.start ≤ change.stop ∧ change.stop ≤ doc.buffer.length) :=
    doc.buffer_length ▸ misfit
  rw [Buffer.apply, Buffer.replace_outside _ outside, buffer_length]

end Document

/-! ## Transactions -/

namespace View

variable {view : View} {change : Change}

def carryOut (view : View) (change : Change) : Except Failure (View × Update) := do
  let document ← view.document.apply change
  pure ({ view with document }, ⟨document.text != view.document.text, false⟩)

def updateOf (view : View) (change : Change) : Update :=
  ⟨(view.document.spliced change).text != view.document.text, false⟩

theorem carryOut_of_fits (fits : change.FitsIn view.document) :
    view.carryOut change =
      .ok ({ view with document := view.document.spliced change }, view.updateOf change) := by
  rw [carryOut, Document.apply_of_fits fits]
  rfl

theorem carryOut_of_misfit (misfit : ¬ change.FitsIn view.document) :
    view.carryOut change =
      .error (.invalidRange change.start change.stop view.document.length) := by
  rw [carryOut, Document.apply_of_misfit misfit]
  rfl

theorem dispatch_of_idle (live : view.destroyed = false) (idle : change.IsIdle) :
    view.dispatch (.change change) = .ok (view, .nothing) := by
  have quick : change.start = change.stop ∧ change.insert = [] := idle
  simp [dispatch, live, quick]

theorem dispatch_of_busy (live : view.destroyed = false) (busy : ¬ change.IsIdle) :
    view.dispatch (.change change) = view.carryOut change := by
  have slow : ¬ (change.start = change.stop ∧ change.insert = []) := busy
  have standing : ¬ view.destroyed = true := by simp [live]
  rw [dispatch, if_neg standing]
  exact if_neg slow

/-- Where the document has its position, an idle change may as well be carried out. -/
theorem dispatch_of_fits (live : view.destroyed = false) (fits : change.FitsIn view.document) :
    view.dispatch (.change change) =
      .ok ({ view with document := view.document.spliced change }, view.updateOf change) := by
  by_cases idle : change.IsIdle
  · have same := Document.spliced_of_idle idle view.document
    have untold : view.updateOf change = .nothing := by
      rw [updateOf, same, bne_self_eq_false]
      rfl
    rw [dispatch_of_idle live idle, same, untold]
  · rw [dispatch_of_busy live idle, carryOut_of_fits fits]

/-- A live view takes a change as the buffer of its text does: where the buffer is changed, so is
the view, which tells exactly of another text; and where the buffer refuses the change and stays as
it is, the view refuses it with the same failure, unless the change is idle. So whether the document
is asked makes a difference exactly for idle changes beyond the end of the text. -/
theorem dispatch_agrees_iff {view : View} (live : view.destroyed = false) (change : Change) :
    let buffer := view.document.buffer
    ∃ after outcome, buffer.apply change = some (after, outcome) ∧
      (outcome = .ok () ↔ change.start ≤ change.stop ∧ change.stop ≤ view.document.length) ∧
      (outcome = .ok () → view.dispatch (.change change) =
        .ok ({ view with document := ⟨after.text.toList⟩ },
          ⟨after.text.toList != view.document.text, false⟩)) ∧
      (∀ failure, outcome = .error failure → after = buffer ∧
        failure = .invalidRange change.start change.stop view.document.length ∧
        view.dispatch (.change change) =
          if change.IsIdle then .ok (view, .nothing) else .error failure) ∧
      (view.dispatch (.change change) ≠ view.carryOut change ↔
        change.IsIdle ∧ view.document.length < change.stop) := by
  intro buffer
  by_cases fits : change.FitsIn view.document
  · refine ⟨_, _, Document.buffer_apply_of_fits fits, iff_of_true rfl fits, ?_, ?_, ?_⟩
    · intro _
      rw [dispatch_of_fits live fits, Document.buffer_text]
      rfl
    · intro failure refused
      cases refused
    · rw [dispatch_of_fits live fits, carryOut_of_fits fits]
      refine iff_of_false (fun apart => apart rfl) ?_
      rintro ⟨-, beyond⟩
      exact absurd fits.2 (Nat.not_le.mpr beyond)
  · refine ⟨_, _, Document.buffer_apply_of_misfit fits, iff_of_false nofun fits, nofun, ?_, ?_⟩
    · rintro failure ⟨⟩
      refine ⟨rfl, rfl, ?_⟩
      by_cases idle : change.IsIdle
      · rw [if_pos idle, dispatch_of_idle live idle]
      · rw [if_neg idle, dispatch_of_busy live idle, carryOut_of_misfit fits]
    · by_cases idle : change.IsIdle
      · have onePlace := idle.1
        have beyond : view.document.length < change.stop := by
          unfold Change.FitsIn at fits
          omega
        rw [dispatch_of_idle live idle, carryOut_of_misfit fits]
        exact iff_of_true nofun ⟨idle, beyond⟩
      · rw [dispatch_of_busy live idle]
        exact iff_of_false (fun apart => apart rfl) (fun both => idle both.1)

/-- Nothing inserted at position 2 of the text `a` is done in a view, and refused by its buffer. -/
theorem idle_change_beyond_end :
    let view := View.create ['a'] .readOnlyView
    let change : Change := .insertion 2 []
    view.destroyed = false ∧ view.dispatch (.change change) = .ok (view, .nothing) ∧
      view.carryOut change = .error (.invalidRange 2 2 1) ∧
      view.document.buffer.apply change =
        some (view.document.buffer, .error (.invalidRange 2 2 1)) := by
  intro view change
  have live : view.destroyed = false := rfl
  obtain ⟨after, outcome, applied, accepted, _, refused, _⟩ :=
    dispatch_agrees_iff live change
  cases outcome with
  | ok done => exact absurd (accepted.mp rfl) (by decide)
  | error failure =>
      obtain ⟨rfl, rfl, carried⟩ := refused failure rfl
      exact ⟨live, carried, rfl, applied⟩

end View

end StrategyDesk
