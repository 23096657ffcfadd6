import StrategyDesk.Document.Header
import StrategyDesk.Proofs.Document.Lines

/-!
# What the header protects

A change that the header permits to the user leaves the protected lines as they are: each has the
same text at the same place. So the protected lines of a document stay protected in the next one, and
this goes on along any list of permitted changes.
-/

set_option autoImplicit false

namespace StrategyDesk

theorem Document.apply_ok {doc after : Document} {change : Change}
    (applied : doc.apply change = .ok after) :
    change.start ≤ change.stop ∧ change.stop ≤ doc.length ∧
      after.text = doc.text.take change.start ++ change.insert ++ doc.text.drop change.stop := by
  unfold apply replace at applied
  split at applied
  · cases applied
  next inside =>
    cases applied
    exact ⟨by omega, by omega, rfl⟩

namespace Header

/-- Whether the protected lines of a document are the first lines of another one. -/
def Keeps (header : Header) (before after : Document) : Prop :=
  after.text.lines.take (header.height before) = before.text.lines.take (header.height before)

variable {header : Header} {before middle after : Document}

theorem Keeps.refl (header : Header) (doc : Document) : header.Keeps doc doc := rfl

theorem Keeps.height_le (kept : header.Keeps before after) :
    header.height before ≤ header.height after := by
  have lengths := congrArg List.length kept
  simp only [List.length_take, ← Document.lineCount_eq] at lengths
  unfold height at lengths ⊢
  omega

theorem Keeps.trans (first : header.Keeps before middle) (second : header.Keeps middle after) :
    header.Keeps before after := by
  have taken := congrArg (List.take (header.height before)) second
  rw [List.take_take, List.take_take, Nat.min_eq_left first.height_le] at taken
  exact Eq.trans taken first

theorem Keeps.line (kept : header.Keeps before after) {number : Nat}
    (inside : number ≤ header.height before) :
    after.line? number = before.line? number ∧ after.lineText? number = before.lineText? number := by
  cases number with
  | zero => exact ⟨rfl, rfl⟩
  | succ count =>
      constructor
      · have placed := congrArg (Document.layLines 1 0) kept
        rw [← Document.take_layLines, ← Document.take_layLines] at placed
        have same := congrArg (fun lines => lines[count]?) placed
        simp only [List.getElem?_take_of_lt inside] at same
        exact same
      · have same := congrArg (fun lines => lines[count]?) kept
        simp only [List.getElem?_take_of_lt inside] at same
        rw [Document.lineText?_succ, Document.lineText?_succ]
        exact same

theorem keeps_of_agree (agreeing : agree (header.height before) before after = true) :
    header.Keeps before after := by
  unfold Keeps
  apply List.ext_getElem?
  intro count
  by_cases inside : count < header.height before
  · rw [List.getElem?_take_of_lt inside, List.getElem?_take_of_lt inside]
    have same := List.all_eq_true.mp agreeing count (List.mem_range.mpr inside)
    rw [beq_iff_eq, Document.lineText?_succ, Document.lineText?_succ] at same
    exact same.symm
  · rw [List.getElem?_take_eq_none (Nat.not_lt.mp inside),
      List.getElem?_take_eq_none (Nat.not_lt.mp inside)]

/-- A change beyond the last protected line is a change beyond the line feed after it, if there is
one. Otherwise it is beyond the end of the document. -/
theorem keeps_of_beyond {change : Change} {last : Line}
    (found : header.lastLine? before = some last) (beyond : last.stop < change.start)
    (applied : before.apply change = .ok after) : header.Keeps before after := by
  obtain ⟨ordered, inside, changed⟩ := Document.apply_ok applied
  unfold lastLine? at found
  unfold Keeps
  cases height : header.height before with
  | zero => rfl
  | succ count =>
      rw [height] at found
      rcases Document.exists_cut found with whole | ⟨head, tail, split, length, first⟩
      · omega
      · have reaches : change.start = head.length + (change.start - last.stop - 1 + 1) := by omega
        have kept : before.text.take change.start =
            head ++ '\n' :: tail.take (change.start - last.stop - 1) := by
          rw [split, reaches, List.take_length_add_append, List.take_succ_cons, ← reaches]
        have lines : after.text.lines.take (count + 1) =
            (before.text.lines.take (count + 1)).take (count + 1) := by
          rw [changed, kept, List.append_assoc, List.append_assoc, List.cons_append,
            Text.lines_append_newline, first, List.take_append_of_le_length]
          rw [List.length_take, ← Document.lineCount_eq, ← height]
          exact Nat.le_min.mpr ⟨Nat.le_refl _, Nat.min_le_right _ _⟩
        rw [lines, List.take_take, Nat.min_self]

theorem keeps_of_permitted {change : Change} (permitted : header.permits before change .user = true)
    (applied : before.apply change = .ok after) : header.Keeps before after := by
  unfold permits at permitted
  cases found : header.lastLine? before with
  | none =>
      have unprotected : header.height before = 0 := by
        cases height : header.height before with
        | zero => rfl
        | succ count =>
            have bounded : header.height before ≤ before.lines.length := Nat.min_le_right _ _
            unfold lastLine? at found
            rw [height] at found bounded
            have missing := List.getElem?_eq_none_iff.mp found
            omega
      unfold Keeps
      rw [unprotected, List.take_zero, List.take_zero]
  | some last =>
      by_cases beyond : change.start > last.stop
      · exact keeps_of_beyond found beyond applied
      · simp only [found, if_neg beyond, applied] at permitted
        exact keeps_of_agree permitted

end Header

end StrategyDesk
