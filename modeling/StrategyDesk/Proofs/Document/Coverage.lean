import StrategyDesk.Proofs.Document.Protection
import StrategyDesk.Proofs.Document.Tiling

/-!
# The characters that the header covers

The header is compared line by line, but what it covers is one range of characters. The protected
lines of a document come first in another one exactly if that one begins with the covered characters
and then ends or goes on with a line feed. So this decides on a change, also where the lines are not
compared because it starts beyond the last of them.
-/

set_option autoImplicit false

namespace StrategyDesk

variable {header : Header} {before after : Document} {count : Nat} {last : Line}

/-- One text has the first lines of another exactly if it begins with them and a line ends there. -/
theorem Text.take_lines_eq_iff {first second : Text} (some_line : 0 < count)
    (within : count ≤ first.lines.length) :
    second.lines.take count = first.lines.take count ↔
      ∃ rest, second = ['\n'].intercalate (first.lines.take count) ++ rest ∧
        (rest = [] ∨ rest.head? = some '\n') := by
  have taken : (first.lines.take count).length = count := by
    rw [List.length_take, Nat.min_eq_left within]
  constructor
  · intro same
    have reaches : count ≤ second.lines.length := by
      have lengths := congrArg List.length same
      rw [taken, List.length_take] at lengths
      omega
    rcases Nat.lt_or_eq_of_le reaches with more | all
    · have split := intercalate_take_drop some_line more
      rw [intercalate_lines, same] at split
      exact ⟨_, split, .inr rfl⟩
    · refine ⟨[], ?_, .inl rfl⟩
      rw [List.append_nil, ← same, all, List.take_length, intercalate_lines]
  · rintro ⟨rest, whole, ends⟩
    rcases ends with rfl | feed
    · rw [whole, List.append_nil, lines_intercalate_take some_line, List.take_take, Nat.min_self]
    · obtain ⟨more, rfl⟩ : ∃ more, rest = '\n' :: more :=
        List.head?_eq_some_iff.mp feed
      rw [whole, lines_append_newline, lines_intercalate_take some_line, List.take_left' taken]

theorem Text.exists_rest (text : Text) (some_line : 0 < count) :
    ∃ rest, ['\n'].intercalate (text.lines.take count) ++ rest = text := by
  rcases Nat.lt_or_ge count text.lines.length with more | all
  · exact ⟨_, (intercalate_take_drop some_line more).symm.trans (intercalate_lines text)⟩
  · exact ⟨[], by rw [List.append_nil, List.take_of_length_le all, intercalate_lines]⟩

theorem Document.slice_to_stop (found : before.lines[count]? = some last) :
    before.text.slice 0 last.stop = ['\n'].intercalate (before.text.lines.take (count + 1)) := by
  have ends := layLines_stop found
  obtain ⟨rest, whole⟩ := before.text.exists_rest (Nat.succ_pos count)
  rw [Nat.zero_add] at ends
  rw [Text.slice, List.drop_zero, ends]
  nth_rewrite 2 [← whole]
  exact List.take_left

namespace Header

theorem agree_iff_keeps :
    agree (header.height before) before after = true ↔ header.Keeps before after := by
  refine ⟨keeps_of_agree, fun kept => List.all_eq_true.mpr ?_⟩
  intro place inside
  rw [beq_iff_eq]
  exact ((kept.line (List.mem_range.mp inside)).2).symm

theorem range?_cases (header : Header) (doc : Document) :
    (header.height doc = 0 ∧ header.lastLine? doc = none) ∨
      ∃ count last, header.height doc = count + 1 ∧ header.lastLine? doc = some last ∧
        doc.lines[count]? = some last := by
  cases height : header.height doc with
  | zero => exact .inl ⟨rfl, by rw [lastLine?, height]; rfl⟩
  | succ count =>
      have bounded : header.height doc ≤ doc.lines.length := Nat.min_le_right _ _
      have found := List.getElem?_eq_getElem (l := doc.lines) (i := count) (by omega)
      refine .inr ⟨count, _, rfl, ?_, found⟩
      rw [lastLine?, height]
      exact found

/-- The protected lines come first in another document exactly if that begins with the covered
characters and a line ends there. -/
theorem keeps_iff_covered (found : before.lines[count]? = some last)
    (height : header.height before = count + 1) :
    header.Keeps before after ↔ ∃ rest, after.text = before.text.slice 0 last.stop ++ rest ∧
      (rest = [] ∨ rest.head? = some '\n') := by
  have within : count + 1 ≤ before.text.lines.length := by
    rw [← Document.lineCount_eq, ← height]
    exact Nat.min_le_right _ _
  rw [Keeps, height, Document.slice_to_stop found]
  exact Text.take_lines_eq_iff (Nat.succ_pos count) within

/-- A change of the user to a part of the document is permitted exactly if the text after it begins
with the covered characters, followed by a line feed or by nothing. A change that starts beyond the
covered range is permitted, and leaves the protected lines as they are. -/
theorem permits_iff_covered (header : Header) (doc : Document) (change : Change)
    (ordered : change.start ≤ change.stop) (inside : change.stop ≤ doc.length) :
    ∃ after, doc.apply change = .ok after ∧
      (header.permits doc change .user = true ↔
        ∀ range, header.range? doc = some range →
          ∃ rest, after.text = doc.text.slice range.1 range.2 ++ rest ∧
            (rest = [] ∨ rest.head? = some '\n')) ∧
      ∀ range, header.range? doc = some range → range.2 < change.start →
        header.permits doc change .user = true ∧
          agree (header.height doc) doc after = true := by
  have accepted : ¬ (change.start > change.stop ∨ change.stop > doc.length) := by omega
  obtain ⟨after, applied⟩ : ∃ after, doc.apply change = .ok after := by
    rw [Document.apply, Document.replace, if_neg accepted]
    exact ⟨_, rfl⟩
  refine ⟨after, applied, ?_⟩
  rcases header.range?_cases doc with ⟨-, uncovered⟩ | ⟨count, last, height, covered, found⟩
  · have no_range : header.range? doc = none := by rw [range?, uncovered]; rfl
    rw [no_range]
    refine ⟨iff_of_true (by rw [permits, uncovered]) nofun, nofun⟩
  · have the_range : header.range? doc = some (0, last.stop) := by rw [range?, covered]; rfl
    rw [the_range]
    simp only [Option.some.injEq, forall_eq']
    by_cases beyond : last.stop < change.start
    · have kept := keeps_of_beyond covered beyond applied
      have permitted : header.permits doc change .user = true := by
        simp only [permits, covered, if_pos beyond]
      exact ⟨iff_of_true permitted ((keeps_iff_covered found height).mp kept),
        fun _ => ⟨permitted, agree_iff_keeps.mpr kept⟩⟩
    · refine ⟨?_, fun reached => absurd reached beyond⟩
      have compared : header.permits doc change .user = agree (header.height doc) doc after := by
        simp only [permits, covered, applied]
        exact if_neg beyond
      rw [compared, agree_iff_keeps]
      exact keeps_iff_covered found height

/-- A change that rewrites the end of the header as it was, and the start of the body. -/
theorem header_end_rewritten :
    let doc : Document := ⟨"a\nb\nc".toList⟩
    let change : Change := ⟨2, 4, "b\nx\n".toList⟩
    change.start ≤ change.stop ∧ change.stop ≤ doc.length ∧
      Header.standard.permits doc change .user = true ∧
      ∃ after, doc.apply change = .ok after ∧
        (Header.standard.permits doc change .user = true ↔
          ∀ range, Header.standard.range? doc = some range →
            ∃ rest, after.text = doc.text.slice range.1 range.2 ++ rest ∧
              (rest = [] ∨ rest.head? = some '\n')) ∧
        ∀ range, Header.standard.range? doc = some range → range.2 < change.start →
          Header.standard.permits doc change .user = true ∧
            agree (Header.standard.height doc) doc after = true :=
  ⟨by decide, by decide, by decide, permits_iff_covered _ _ _ (by decide) (by decide)⟩

end Header

end StrategyDesk
