import StrategyDesk.Document

/-!
# Lines of a document

The lines of a text are its pieces between line feeds. A line is laid out where its piece stands, so
what reads back at a line is its piece; and a text that is cut at the end of a line has the lines
before the cut and those after it.
-/

set_option autoImplicit false

namespace StrategyDesk

namespace Text

theorem newline_notMem_of_mem_lines {text line : Text} (member : line ∈ text.lines) :
    '\n' ∉ line := by
  induction text generalizing line with
  | nil =>
      rw [List.mem_singleton.mp member]
      exact List.not_mem_nil
  | cons c rest ih =>
      unfold lines at member ih
      rw [List.splitOn_cons_eq_if_modifyHead] at member
      by_cases feed : c = '\n'
      · rw [if_pos (beq_iff_eq.mpr feed)] at member
        rcases List.mem_cons.mp member with rfl | later
        · exact List.not_mem_nil
        · exact ih later
      · rw [if_neg (fun same => feed (beq_iff_eq.mp same))] at member
        obtain ⟨first, others, pieces⟩ :=
          List.exists_cons_of_ne_nil (List.splitOn_ne_nil '\n' rest)
        rw [pieces] at member ih
        rcases List.mem_cons.mp member with rfl | later
        · intro inside
          rcases List.mem_cons.mp inside with same | inside
          · exact feed same.symm
          · exact ih List.mem_cons_self inside
        · exact ih (List.mem_cons_of_mem _ later)

theorem intercalate_lines (text : Text) : ['\n'].intercalate text.lines = text :=
  List.intercalate_splitOn '\n'

theorem lines_ne_nil (text : Text) : text.lines ≠ [] := List.splitOn_ne_nil _ _

theorem lines_append_newline (head tail : Text) :
    lines (head ++ '\n' :: tail) = lines head ++ lines tail :=
  List.splitOn_append_cons_self head tail

/-- The text of some lines is the text of the first ones, a line feed, and that of the others. -/
theorem intercalate_take_drop {pieces : List Text} {count : Nat} (before : 0 < count)
    (after : count < pieces.length) :
    ['\n'].intercalate pieces =
      ['\n'].intercalate (pieces.take count) ++
        '\n' :: ['\n'].intercalate (pieces.drop count) := by
  induction pieces generalizing count with
  | nil => cases after
  | cons piece rest ih =>
      have more : rest ≠ [] := by
        intro none_left
        simp only [none_left, List.length_singleton] at after
        omega
      rw [List.intercalate_cons_of_ne_nil more]
      obtain _ | _ | count := count
      · cases before
      · simp
      · have inside : count + 1 < rest.length := by simpa using after
        have some_taken : rest.take (count + 1) ≠ [] := by
          simp [more]
        rw [List.take_succ_cons, List.drop_succ_cons, List.intercalate_cons_of_ne_nil some_taken,
          ih (Nat.succ_pos count) inside]
        simp only [List.append_assoc]

theorem lines_intercalate_take {text : Text} {count : Nat} (before : 0 < count) :
    lines (['\n'].intercalate (text.lines.take count)) = text.lines.take count := by
  refine List.splitOn_intercalate '\n' ?_ ?_
  · intro line member
    exact newline_notMem_of_mem_lines (List.mem_of_mem_take member)
  · intro none_taken
    rcases List.take_eq_nil_iff.mp none_taken with zero | empty
    · omega
    · exact lines_ne_nil text empty

end Text

namespace Document

theorem take_layLines (number start count : Nat) (texts : List Text) :
    (layLines number start texts).take count = layLines number start (texts.take count) := by
  induction texts generalizing number start count with
  | nil => simp [layLines]
  | cons text rest ih =>
      cases count with
      | zero => rfl
      | succ count => rw [layLines, List.take_succ_cons, List.take_succ_cons, layLines, ih]

theorem layLines_length (number start : Nat) (texts : List Text) :
    (layLines number start texts).length = texts.length := by
  induction texts generalizing number start with
  | nil => rfl
  | cons text rest ih => rw [layLines, List.length_cons, List.length_cons, ih]

theorem lineCount_eq (doc : Document) : doc.lineCount = doc.text.lines.length :=
  layLines_length 1 0 doc.text.lines

theorem layLines_stop {number start count : Nat} {texts : List Text} {line : Line}
    (found : (layLines number start texts)[count]? = some line) :
    line.stop = start + (['\n'].intercalate (texts.take (count + 1))).length := by
  induction texts generalizing number start count with
  | nil => cases found
  | cons text rest ih =>
      cases count with
      | zero =>
          cases found
          rw [List.take_succ_cons, List.take_zero, List.intercalate_singleton]
      | succ count =>
          rw [layLines, List.getElem?_cons_succ] at found
          have more : rest.take (count + 1) ≠ [] := by
            intro none_left
            rcases List.take_eq_nil_iff.mp none_left with zero | empty
            · omega
            · rw [empty] at found
              cases found
          rw [ih found, List.take_succ_cons, List.intercalate_cons_of_ne_nil more]
          simp only [List.length_append, List.length_singleton]
          omega

/-- What stands at the place of a line, in a text that holds the lines after some other text. -/
theorem slice_layLines (number count : Nat) (before : Text) (texts : List Text) :
    ((layLines number before.length texts)[count]?).map
        (fun line => (before ++ ['\n'].intercalate texts).slice line.start line.stop) =
      texts[count]? := by
  induction texts generalizing number count before with
  | nil => rfl
  | cons text rest ih =>
      cases count with
      | zero =>
          obtain ⟨others, whole⟩ : ∃ others, ['\n'].intercalate (text :: rest) = text ++ others := by
            cases rest with
            | nil => exact ⟨[], by simp⟩
            | cons next others => exact ⟨_, List.intercalate_cons_cons.trans (List.append_assoc ..)⟩
          rw [layLines, List.getElem?_cons_zero, List.getElem?_cons_zero, Option.map_some, whole,
            Text.slice, ← List.append_assoc, List.take_left' (by simp), List.drop_left]
      | succ count =>
          rw [layLines, List.getElem?_cons_succ, List.getElem?_cons_succ]
          by_cases last : rest = []
          · rw [last]
            rfl
          · have onward := ih (number + 1) count (before ++ text ++ ['\n'])
            simp only [List.length_append, List.length_singleton] at onward
            rw [List.intercalate_cons_of_ne_nil last, ← List.append_assoc, ← List.append_assoc]
            exact onward

/-- A line ends at the end of the document, or the document goes on after a line feed. -/
theorem exists_cut {doc : Document} {count : Nat} {line : Line}
    (found : doc.lines[count]? = some line) :
    line.stop = doc.length ∨ ∃ head tail, doc.text = head ++ '\n' :: tail ∧
      head.length = line.stop ∧ head.lines = doc.text.lines.take (count + 1) := by
  have ends := layLines_stop found
  rw [Nat.zero_add] at ends
  have among : count < doc.text.lines.length := by
    obtain ⟨inside, _⟩ := List.getElem?_eq_some_iff.mp found
    rw [← layLines_length 1 0 doc.text.lines]
    exact inside
  by_cases last : count + 1 = doc.text.lines.length
  · left
    rw [last, List.take_length, Text.intercalate_lines] at ends
    exact ends
  · right
    have split := Text.intercalate_take_drop (Nat.succ_pos count) (Nat.lt_of_le_of_ne among last)
    rw [Text.intercalate_lines] at split
    exact ⟨_, _, split, ends.symm, Text.lines_intercalate_take (Nat.succ_pos count)⟩

theorem lineText?_succ (doc : Document) (count : Nat) :
    doc.lineText? (count + 1) = doc.text.lines[count]? := by
  have read := slice_layLines 1 count [] doc.text.lines
  rw [List.nil_append, Text.intercalate_lines] at read
  exact read

end Document

end StrategyDesk
