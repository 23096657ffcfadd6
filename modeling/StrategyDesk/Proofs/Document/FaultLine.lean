import Mathlib.Data.List.Sort
import StrategyDesk.Document.Rejection

/-!
# The line of a fault

A fault is shown on the last line that is not empty and begins at or before its offset. So two
documents show a fault at the same place if that line stands at the same place in both, and they
show all faults at the same places exactly if all their lines that are not empty do.
-/

set_option autoImplicit false

namespace StrategyDesk.Document

/-! ## Where lines stand -/

theorem layLines_bounds {number start : Nat} {texts : List Text} {line : Line}
    (member : line ∈ layLines number start texts) :
    number ≤ line.number ∧ start ≤ line.start ∧ line.start ≤ line.stop := by
  induction texts generalizing number start with
  | nil => cases member
  | cons text rest ih =>
      rcases List.mem_cons.mp member with rfl | later
      · simp
      · obtain ⟨numbers, starts, length⟩ := ih later
        omega

theorem layLines_apart (number start : Nat) (texts : List Text) :
    (layLines number start texts).Pairwise fun first second => first.stop < second.start := by
  induction texts generalizing number start with
  | nil => exact .nil
  | cons text rest ih =>
      refine List.pairwise_cons.mpr ⟨?_, ih _ _⟩
      intro line member
      have bounds := layLines_bounds member
      dsimp only
      omega

theorem layLines_ordered (number start : Nat) (texts : List Text) :
    (layLines number start texts).Pairwise fun first second => first.start < second.start :=
  (layLines_apart number start texts).imp_of_mem fun member _ apart =>
    (layLines_bounds member).2.2.trans_lt apart

theorem layLines_stop_le {number start : Nat} {texts : List Text} {line : Line}
    (member : line ∈ layLines number start texts) :
    line.stop ≤ start + (['\n'].intercalate texts).length := by
  induction texts generalizing number start with
  | nil => cases member
  | cons text rest ih =>
      cases rest with
      | nil =>
          rw [List.mem_singleton.mp member, List.intercalate_singleton]
      | cons next others =>
          rw [List.intercalate_cons_cons]
          simp only [List.length_append, List.length_singleton]
          rcases List.mem_cons.mp member with rfl | later
          · dsimp only
            omega
          · have inside := ih later
            omega

/-- The lines that begin at or before a position are those up to the number of the last one. -/
theorem layLines_take {number start position : Nat} {texts : List Text} (some_line : texts ≠ [])
    (reached : start ≤ position) :
    ∃ last, ((layLines number start texts).filter fun line => line.start ≤ position).getLast? =
        some last ∧ number ≤ last.number ∧
      (layLines number start texts).take (last.number + 1 - number) =
        (layLines number start texts).filter fun line => line.start ≤ position := by
  induction texts generalizing number start with
  | nil => exact absurd rfl some_line
  | cons text rest ih =>
      let first : Line := ⟨number, start, start + text.length⟩
      let others := layLines (number + 1) (start + text.length + 1) rest
      have kept : (layLines number start (text :: rest)).filter
          (fun line => line.start ≤ position) =
            first :: others.filter fun line => line.start ≤ position := by
        simp [layLines, reached, first, others]
      rw [kept]
      by_cases more : rest ≠ [] ∧ start + text.length + 1 ≤ position
      · obtain ⟨last, found, numbers, taken⟩ := @ih (number + 1) (start + text.length + 1) more.1 more.2
        refine ⟨last, ?_, by omega, ?_⟩
        · rw [List.getLast?_cons, found]
          rfl
        · have later : last.number + 1 - number = last.number + 1 - (number + 1) + 1 := by omega
          rw [later, ← taken]
          rfl
      · have none_later : (others.filter fun line => line.start ≤ position) = [] := by
          refine List.filter_eq_nil_iff.mpr ?_
          intro line member
          by_cases empty : rest = []
          · rw [show others = [] by simp [others, empty, layLines]] at member
            cases member
          · have bounds := layLines_bounds member
            have beyond : ¬ start + text.length + 1 ≤ position := fun le => more ⟨empty, le⟩
            simp only [decide_eq_true_eq]
            omega
        refine ⟨first, ?_, Nat.le_refl _, ?_⟩
        · rw [none_later]
          rfl
        · rw [none_later, show first.number + 1 - number = 1 by simp [first]]
          rfl

/-! ## The range of a fault -/

def contentRanges (doc : Document) : List (Nat × Nat) :=
  (doc.lines.filter fun line => !line.isEmpty).map fun line => (line.start, line.stop)

/-- The last of some places that begins at or before an offset counted from one. -/
def rangeAt? (ranges : List (Nat × Nat)) (offset : Int) : Option (Nat × Nat) :=
  (ranges.filter fun range => range.1 ≤ (offset - 1).toNat).getLast?

theorem stop_le_length {doc : Document} {line : Line} (member : line ∈ doc.lines) :
    line.stop ≤ doc.length := by
  have inside := layLines_stop_le member
  rw [show doc.text.lines = doc.text.splitOn '\n' from rfl, List.intercalate_splitOn] at inside
  unfold length
  omega

theorem start_le_length {doc : Document} {line : Line} (member : line ∈ doc.lines) :
    line.start ≤ doc.length := (layLines_bounds member).2.2.trans (stop_le_length member)

theorem take_lineAt (doc : Document) (position : Nat) (inside : position ≤ doc.length) :
    doc.lines.take (doc.lineAt position).number =
      doc.lines.filter fun line => line.start ≤ position := by
  have some_line : doc.text.lines ≠ [] := List.splitOn_ne_nil _ _
  obtain ⟨last, found, numbers, taken⟩ := layLines_take some_line (Nat.zero_le position)
  have holds : doc.lineAt position = last := by
    rw [lineAt, Nat.min_eq_left inside, lines, found]
    rfl
  rw [Nat.add_sub_cancel] at taken
  rw [holds]
  exact taken

theorem filter_take_lineAt (doc : Document) (offset : Int) :
    (doc.lines.take (doc.lineAt (doc.positionOf offset)).number).filter
        (fun line => !line.isEmpty) =
      (doc.lines.filter fun line => !line.isEmpty).filter
        fun line => line.start ≤ (offset - 1).toNat := by
  have bounded : doc.positionOf offset ≤ doc.length := Nat.min_le_right _ _
  rw [take_lineAt doc _ bounded, List.filter_filter, List.filter_filter]
  apply List.filter_congr
  intro line member
  have inside := start_le_length member
  have same : (line.start ≤ doc.positionOf offset) ↔ line.start ≤ (offset - 1).toNat := by
    unfold positionOf
    omega
  simp only [same, Bool.and_comm]

theorem lines_eq_cons (doc : Document) :
    ∃ first rest, doc.lines = first :: rest ∧ first.start = 0 := by
  cases texts : doc.text.lines with
  | nil => exact absurd texts (List.splitOn_ne_nil _ _)
  | cons text rest =>
      exact ⟨⟨1, 0, 0 + text.length⟩, layLines 2 (0 + text.length + 1) rest,
        by rw [lines, texts, layLines], rfl⟩

theorem rangeAt?_contentRanges (doc : Document) (offset : Int) :
    rangeAt? doc.contentRanges offset =
      (((doc.lines.filter fun line => !line.isEmpty).filter
        fun line => line.start ≤ (offset - 1).toNat).getLast?).map
          fun line => (line.start, line.stop) := by
  rw [rangeAt?, contentRanges, List.filter_map, List.getLast?_map]
  rfl

theorem faultLine_range (doc : Document) (offset : Int) :
    ((doc.faultLine offset).start, (doc.faultLine offset).stop) =
      (rangeAt? doc.contentRanges offset).getD (0, 0) := by
  simp only [faultLine, contentLine, filter_take_lineAt, rangeAt?_contentRanges]
  cases shown : ((doc.lines.filter fun line => !line.isEmpty).filter
      fun line => line.start ≤ (offset - 1).toNat).getLast? with
  | some line => rfl
  | none =>
      -- The first line begins before any offset, so it is passed over only because it is empty.
      obtain ⟨first, rest, all, begins⟩ := lines_eq_cons doc
      rw [List.getLast?_eq_none_iff, List.filter_filter, List.filter_eq_nil_iff] at shown
      have passed := shown first (by rw [all]; exact List.mem_cons_self)
      have empty : first.start = first.stop := by
        simpa [begins, Line.isEmpty] using passed
      simp [all, begins, ← empty]

/-! ## When two documents show a fault at the same place -/

theorem contentRanges_pos {doc : Document} {range : Nat × Nat}
    (member : range ∈ doc.contentRanges) : range.1 < range.2 := by
  obtain ⟨line, among, rfl⟩ := List.mem_map.mp member
  obtain ⟨known, filled⟩ := List.mem_filter.mp among
  have bounds := (layLines_bounds known).2.2
  have different : line.start ≠ line.stop := by simpa [Line.isEmpty] using filled
  exact Nat.lt_of_le_of_ne bounds different

theorem contentRanges_stop_le {doc : Document} {range : Nat × Nat}
    (member : range ∈ doc.contentRanges) : range.2 ≤ doc.length := by
  obtain ⟨line, among, rfl⟩ := List.mem_map.mp member
  exact stop_le_length (List.mem_filter.mp among).1

theorem contentRanges_ordered (doc : Document) :
    doc.contentRanges.Pairwise fun first second => first.1 < second.1 := by
  refine List.pairwise_map.mpr ?_
  exact (layLines_ordered 1 0 doc.text.lines).filter _

theorem contentRanges_of_rangeAt? {doc : Document} {offset : Int} {range : Nat × Nat}
    (found : rangeAt? doc.contentRanges offset = some range) : range ∈ doc.contentRanges :=
  (List.mem_filter.mp (List.mem_of_getLast? found)).1

theorem rangeAt?_start {doc : Document} {range : Nat × Nat}
    (member : range ∈ doc.contentRanges) :
    rangeAt? doc.contentRanges (range.1 + 1) = some range := by
  obtain ⟨before, after, split⟩ := List.append_of_mem member
  have ordered := contentRanges_ordered doc
  rw [split] at ordered
  have later := (List.pairwise_cons.mp (List.pairwise_append.mp ordered).2.1).1
  have passed : (after.filter fun other => other.1 ≤ range.1) = [] := by
    refine List.filter_eq_nil_iff.mpr ?_
    intro other among
    have beyond := later other among
    simp only [decide_eq_true_eq]
    omega
  simp [rangeAt?, split, List.filter_append, passed]

/-- Two documents show a fault at the same place exactly if they find the same range for it. -/
theorem diagnostic_eq_iff (rejection : Rejection) (doc other : Document) :
    rejection.diagnostic doc = rejection.diagnostic other ↔
      rangeAt? doc.contentRanges rejection.index =
        rangeAt? other.contentRanges rejection.index := by
  have ranges : rejection.diagnostic doc = rejection.diagnostic other ↔
      (rangeAt? doc.contentRanges rejection.index).getD (0, 0) =
        (rangeAt? other.contentRanges rejection.index).getD (0, 0) := by
    rw [← faultLine_range, ← faultLine_range, Prod.mk.injEq]
    simp [Rejection.diagnostic, Diagnostic.ofValidator]
  rw [ranges]
  refine ⟨fun same => ?_, fun same => by rw [same]⟩
  cases here : rangeAt? doc.contentRanges rejection.index with
  | none =>
      cases there : rangeAt? other.contentRanges rejection.index with
      | none => rfl
      | some range =>
          have filled := contentRanges_pos (contentRanges_of_rangeAt? there)
          rw [here, there, Option.getD_none, Option.getD_some] at same
          rw [← same] at filled
          cases filled
  | some range =>
      have filled := contentRanges_pos (contentRanges_of_rangeAt? here)
      cases there : rangeAt? other.contentRanges rejection.index with
      | none =>
          rw [here, there, Option.getD_none, Option.getD_some] at same
          rw [same] at filled
          cases filled
      | some second =>
          rw [here, there, Option.getD_some, Option.getD_some] at same
          rw [same]

/-- All faults are shown at the same places exactly if all lines that are not empty are. -/
theorem rangeAt?_eq_iff (doc other : Document) :
    (∀ offset, rangeAt? doc.contentRanges offset = rangeAt? other.contentRanges offset) ↔
      doc.contentRanges = other.contentRanges := by
  refine ⟨fun same => ?_, fun same offset => by rw [same]⟩
  have antisymm : Std.Antisymm fun first second : Nat × Nat => first.1 < second.1 :=
    ⟨fun _ _ less more => absurd less (Nat.lt_asymm more)⟩
  have irrefl : Std.Irrefl fun first second : Nat × Nat => first.1 < second.1 :=
    ⟨fun _ => Nat.lt_irrefl _⟩
  refine (contentRanges_ordered doc).eq_of_mem_iff (contentRanges_ordered other) ?_
  intro range
  constructor
  · intro member
    have found := rangeAt?_start member
    rw [same] at found
    exact contentRanges_of_rangeAt? found
  · intro member
    have found := rangeAt?_start member
    rw [← same] at found
    exact contentRanges_of_rangeAt? found

end StrategyDesk.Document
