import StrategyDesk.Proofs.Document.FaultLine
import StrategyDesk.Proofs.Document.Lines

/-!
# How lines tile a document

The lines of a document stand one after the other with one position, that of a line feed, between
neighbours. So each position up to the end of the document is held by exactly one line, which is the
one that is looked up for it.
-/

set_option autoImplicit false

namespace StrategyDesk.Document

variable {doc : Document} {line next other : Line} {number place position : Nat}

/-! ## Neighbours -/

theorem layLines_number {start : Nat} {texts : List Text}
    (found : (layLines number start texts)[place]? = some line) : line.number = number + place := by
  induction texts generalizing number start place with
  | nil => cases found
  | cons text rest ih =>
      cases place with
      | zero =>
          cases found
          rfl
      | succ place =>
          have later := ih found
          omega

theorem layLines_next {start : Nat} {texts : List Text}
    (found : (layLines number start texts)[place]? = some line)
    (follows : (layLines number start texts)[place + 1]? = some next) :
    next.start = line.stop + 1 := by
  induction texts generalizing number start place with
  | nil => cases found
  | cons text rest ih =>
      cases place with
      | zero =>
          cases found
          cases rest with
          | nil => cases follows
          | cons second others =>
              cases follows
              rfl
      | succ place => exact ih found follows

/-! ## Lines by their numbers -/

theorem number_of_line? (found : doc.line? number = some line) : line.number = number := by
  cases number with
  | zero => cases found
  | succ place =>
      have counted := layLines_number found
      omega

theorem mem_of_line? (found : doc.line? number = some line) : line ∈ doc.lines := by
  cases number with
  | zero => cases found
  | succ place => exact List.mem_of_getElem? found

theorem start_le_stop (found : doc.line? number = some line) : line.start ≤ line.stop :=
  (layLines_bounds (mem_of_line? found)).2.2

theorem line?_of_mem (member : line ∈ doc.lines) : doc.line? line.number = some line := by
  obtain ⟨place, found⟩ := List.mem_iff_getElem?.mp member
  have counted := layLines_number found
  rw [counted, Nat.add_comm]
  exact found

theorem line?_isSome_iff : (doc.line? number).isSome ↔ 1 ≤ number ∧ number ≤ doc.lineCount := by
  cases number with
  | zero => simp [line?]
  | succ place =>
      rw [line?, lineCount, isSome_getElem?]
      omega

theorem lineCount_le_of_absent (absent : doc.line? (place + 1) = none) : doc.lineCount ≤ place := by
  have outside := mt line?_isSome_iff.mpr (Option.not_isSome_iff_eq_none.mpr absent)
  omega

theorem start_of_first (found : doc.line? 1 = some line) : line.start = 0 := by
  obtain ⟨first, rest, all, begins⟩ := lines_eq_cons doc
  rw [line?, all] at found
  cases found
  exact begins

theorem start_of_next (found : doc.line? number = some line)
    (follows : doc.line? (number + 1) = some next) : next.start = line.stop + 1 := by
  cases number with
  | zero => cases found
  | succ place => exact layLines_next found follows

theorem stop_of_last (found : doc.line? doc.lineCount = some line) : line.stop = doc.length := by
  obtain ⟨place, counted⟩ : ∃ place, doc.lineCount = place + 1 := by
    cases count : doc.lineCount with
    | zero =>
        rw [count] at found
        cases found
    | succ place => exact ⟨place, rfl⟩
  rw [counted] at found
  have ends := layLines_stop found
  rw [← counted, lineCount_eq, List.take_length, Text.intercalate_lines, Nat.zero_add] at ends
  exact ends

theorem stop_lt_start {later : Nat} (found : doc.line? number = some line)
    (follows : doc.line? later = some other) (before : number < later) :
    line.stop < other.start := by
  cases number with
  | zero => cases found
  | succ place =>
      cases later with
      | zero => cases follows
      | succ later =>
          obtain ⟨inside, rfl⟩ := List.getElem?_eq_some_iff.mp found
          obtain ⟨within, rfl⟩ := List.getElem?_eq_some_iff.mp follows
          exact List.pairwise_iff_getElem.mp (layLines_apart 1 0 doc.text.lines) place later inside
            within (by omega)

theorem eq_of_holds (found : doc.line? line.number = some line)
    (another : doc.line? other.number = some other)
    (first : line.start ≤ position ∧ position ≤ line.stop)
    (second : other.start ≤ position ∧ position ≤ other.stop) : other = line := by
  rcases Nat.lt_trichotomy line.number other.number with before | same | after
  · have apart := stop_lt_start found another before
    omega
  · rw [same, another] at found
    exact Option.some.inj found
  · have apart := stop_lt_start another found after
    omega

/-! ## The line of a position -/

/-- The line that is looked up for a position holds it, or the end for positions past that. -/
theorem lineAt_holds (doc : Document) (position : Nat) :
    doc.line? (doc.lineAt position).number = some (doc.lineAt position) ∧
      (doc.lineAt position).start ≤ min position doc.length ∧
      min position doc.length ≤ (doc.lineAt position).stop := by
  obtain ⟨last, latest, -, taken⟩ :=
    @layLines_take 1 0 (min position doc.length) _ (Text.lines_ne_nil doc.text) (Nat.zero_le _)
  rw [Nat.add_sub_cancel] at taken
  have looked : doc.lineAt position = last := by
    rw [lineAt, lines, latest]
    rfl
  obtain ⟨member, begun⟩ := List.mem_filter.mp (List.mem_of_getLast? latest)
  have found : doc.line? last.number = some last := line?_of_mem member
  rw [looked]
  refine ⟨found, of_decide_eq_true begun, ?_⟩
  cases follows : doc.line? (last.number + 1) with
  | none =>
      have counted : last.number = doc.lineCount :=
        Nat.le_antisymm (line?_isSome_iff.mp (Option.isSome_of_eq_some found)).2
          (lineCount_le_of_absent follows)
      rw [counted] at found
      rw [stop_of_last found]
      exact Nat.min_le_right _ _
  | some next =>
      -- The next line starts later, or it would be among the lines up to this one.
      have adjacent := start_of_next found follows
      by_contra beyond
      have among : next ∈ (layLines 1 0 doc.text.lines).take last.number := by
        rw [taken]
        exact List.mem_filter.mpr ⟨mem_of_line? follows, decide_eq_true (by omega)⟩
      obtain ⟨place, taken_at⟩ := List.mem_iff_getElem?.mp among
      rw [List.getElem?_take] at taken_at
      split at taken_at
      next inside =>
        have counted := layLines_number taken_at
        have numbered := number_of_line? follows
        omega
      next => cases taken_at

theorem lineAt_number_mono (doc : Document) {first second : Nat} (ordered : first ≤ second) :
    (doc.lineAt first).number ≤ (doc.lineAt second).number := by
  obtain ⟨found, begun, _⟩ := doc.lineAt_holds first
  obtain ⟨another, _, reaches⟩ := doc.lineAt_holds second
  by_contra before
  have apart := stop_lt_start another found (by omega)
  omega

end StrategyDesk.Document
