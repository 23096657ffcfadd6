import StrategyDesk.Document.Decoration
import StrategyDesk.Proofs.Document.Lookup
import StrategyDesk.Proofs.Text.Repetition

/-!
# Which lines are decorated

The lines between those of two positions are the ones that meet the range of these positions, moved
into the document and taken with both ends. That holds of ranges the wrong way round as well, which
meet a line only within it. So however the visible ranges lie to each other, the target lines that
meet one of them are decorated, in order and each once.
-/

set_option autoImplicit false

namespace StrategyDesk

/-- Whether a line of a document of the given length meets a range of positions. The ends of the
range are moved into the document and belong to it. -/
def Line.Meets (line : Line) (length : Nat) (range : Nat × Nat) : Prop :=
  line.start ≤ min range.2 length ∧ min range.1 length ≤ line.stop

namespace Decoration

variable {found : List Decoration}

theorem mem_arrange (decoration : Decoration) :
    decoration ∈ arrange found ↔ decoration ∈ found := by
  rw [arrange, List.eraseReps]
  constructor
  · intro kept
    exact List.mem_mergeSort.mp (mem_of_mem_eraseReps _ kept)
  · intro member
    have held : decoration ∈ (found.mergeSort fun a b => a.position ≤ b.position).map id := by
      simpa using member
    rw [← List.map_id (List.eraseRepsBy _ _)]
    exact mem_map_eraseReps (· == ·) (fun _ _ => beq_iff_eq.mp) held

theorem arrange_ordered (apart : ∀ a ∈ found, ∀ b ∈ found, a.position = b.position → a = b) :
    (arrange found).Pairwise fun a b => a.position < b.position := by
  have sorted : (found.mergeSort fun a b => a.position ≤ b.position).Pairwise
      fun a b => a.position ≤ b.position := by
    refine (List.pairwise_mergeSort ?_ ?_ found).imp ?_
    · intro a b c before after
      simp only [decide_eq_true_eq] at before after ⊢
      omega
    · intro a b
      simp only [Bool.or_eq_true, decide_eq_true_eq]
      omega
    · intro a b ordered
      exact of_decide_eq_true ordered
  refine eraseReps_ascend (· == ·) ?_ sorted
  intro a first b second same
  rw [List.mem_mergeSort] at first second
  exact beq_iff_eq.mpr (apart a first b second same)

end Decoration

namespace Document

variable {doc : Document} {line other : Line} {number later : Nat}

theorem le_lineAt_iff (found : doc.line? number = some line) (position : Nat) :
    number ≤ (doc.lineAt position).number ↔ line.start ≤ min position doc.length := by
  obtain ⟨looked, begun, reaches⟩ := doc.lineAt_holds position
  have bounds := start_le_stop found
  constructor
  · intro upTo
    rcases Nat.lt_or_eq_of_le upTo with before | rfl
    · have apart := stop_lt_start found looked before
      omega
    · rw [looked] at found
      cases found
      exact begun
  · intro starts
    by_contra beyond
    have apart := stop_lt_start looked found (by omega)
    omega

theorem lineAt_le_iff (found : doc.line? number = some line) (position : Nat) :
    (doc.lineAt position).number ≤ number ↔ min position doc.length ≤ line.stop := by
  obtain ⟨looked, begun, reaches⟩ := doc.lineAt_holds position
  have bounds := start_le_stop found
  constructor
  · intro onward
    rcases Nat.lt_or_eq_of_le onward with before | rfl
    · have apart := stop_lt_start looked found before
      omega
    · rw [looked] at found
      cases found
      exact reaches
  · intro stops
    by_contra before
    have apart := stop_lt_start found looked (by omega)
    omega

/-- A line lies between those of two positions exactly if it meets their range. -/
theorem between_iff_meets (found : doc.line? number = some line) (range : Nat × Nat) :
    (doc.lineAt range.1).number ≤ number ∧ number ≤ (doc.lineAt range.2).number ↔
      line.Meets doc.length range := by
  rw [lineAt_le_iff found, le_lineAt_iff found, Line.Meets]
  exact and_comm

theorem eq_of_start_eq (found : doc.line? number = some line)
    (another : doc.line? later = some other) (same : line.start = other.start) :
    number = later := by
  have bounds := start_le_stop found
  have limits := start_le_stop another
  rcases Nat.lt_trichotomy number later with before | equal | after
  · have apart := stop_lt_start found another before
    omega
  · exact equal
  · have apart := stop_lt_start another found after
    omega

/-- Whether a decoration is the one of a target line that meets a visible range. -/
def Decorates (doc : Document) (visible : List (Nat × Nat)) (targets : List Nat)
    (decoration : Decoration) : Prop :=
  ∃ line, doc.line? decoration.line = some line ∧ decoration.position = line.start ∧
    decoration.line ∈ targets ∧ ∃ range ∈ visible, line.Meets doc.length range

theorem Decorates.eq {visible : List (Nat × Nat)} {targets : List Nat} {a b : Decoration}
    (first : doc.Decorates visible targets a) (second : doc.Decorates visible targets b)
    (same : a.position = b.position) : a = b := by
  obtain ⟨line, found, begins, -⟩ := first
  obtain ⟨other, another, starts, -⟩ := second
  have numbers := eq_of_start_eq found another (by omega)
  cases a
  cases b
  simp_all

theorem decorates_iff_exists (visible : List (Nat × Nat)) (targets : List Nat)
    (decoration : Decoration) :
    doc.Decorates visible targets decoration ↔
      ∃ range ∈ visible, doc.Decorates [range] targets decoration := by
  constructor
  · rintro ⟨line, found, begins, target, range, shown, meets⟩
    exact ⟨range, shown, line, found, begins, target, range, by simp, meets⟩
  · rintro ⟨range, shown, line, found, begins, target, same, member, meets⟩
    rw [List.mem_singleton.mp member] at meets
    exact ⟨line, found, begins, target, range, shown, meets⟩

theorem mem_decorationsIn (targets : List Nat) (range : Nat × Nat) (decoration : Decoration) :
    decoration ∈ doc.decorationsIn targets range ↔ doc.Decorates [range] targets decoration := by
  unfold decorationsIn Decorates
  simp only [List.mem_map, List.mem_filter, Bool.and_eq_true, decide_eq_true_eq,
    List.contains_iff_mem, List.mem_singleton, exists_eq_left]
  constructor
  · rintro ⟨line, ⟨member, between, target⟩, rfl⟩
    have found := line?_of_mem member
    exact ⟨line, found, rfl, target, (between_iff_meets found range).mp between⟩
  · rintro ⟨line, found, position, target, meets⟩
    have numbered := number_of_line? found
    refine ⟨line, ⟨mem_of_line? found, ?_, numbered ▸ target⟩, ?_⟩
    · rw [numbered]
      exact (between_iff_meets found range).mpr meets
    · rw [numbered, ← position]

theorem mem_decorations (visible : List (Nat × Nat)) (targets : List Nat)
    (decoration : Decoration) :
    decoration ∈ doc.decorations visible targets ↔ doc.Decorates visible targets decoration := by
  rw [decorations, Decoration.mem_arrange, List.mem_flatMap, decorates_iff_exists]
  simp only [mem_decorationsIn]

theorem decorations_ordered (visible : List (Nat × Nat)) (targets : List Nat) :
    (doc.decorations visible targets).Pairwise fun a b => a.position < b.position := by
  apply Decoration.arrange_ordered
  intro a first b second same
  have decorates {d : Decoration} (member : d ∈ visible.flatMap (doc.decorationsIn targets)) :
      doc.Decorates visible targets d :=
    (mem_decorations visible targets d).mp ((Decoration.mem_arrange d).mpr member)
  exact (decorates first).eq (decorates second) same

end Document

namespace Buffer

variable {buffer : Buffer}

theorem InStep.mem_decorationsIn (fresh : buffer.InStep) (targets : List Nat) (range : Nat × Nat)
    (decoration : Decoration) :
    decoration ∈ buffer.decorationsIn targets range ↔
      buffer.document.Decorates [range] targets decoration := by
  unfold decorationsIn Document.Decorates
  simp only [List.mem_filterMap, List.mem_range'_1, (fresh.lineAt _).2, fresh.line?,
    List.mem_singleton, exists_eq_left]
  constructor
  · rintro ⟨number, between, kept⟩
    split at kept
    next target =>
      obtain ⟨line, found, rfl⟩ := Option.map_eq_some_iff.mp kept
      refine ⟨line, found, rfl, List.contains_iff_mem.mp target, ?_⟩
      exact (Document.between_iff_meets found range).mp (by omega)
    next => cases kept
  · rintro ⟨line, found, position, target, meets⟩
    have between := (Document.between_iff_meets found range).mpr meets
    refine ⟨decoration.line, by omega, ?_⟩
    rw [if_pos (List.contains_iff_mem.mpr target), found, Option.map_some, ← position]

theorem InStep.decorations (fresh : buffer.InStep) (visible : List (Nat × Nat))
    (targets : List Nat) :
    buffer.decorations visible targets = buffer.document.decorations visible targets := by
  have members (decoration : Decoration) :
      decoration ∈ visible.flatMap (buffer.decorationsIn targets) ↔
        buffer.document.Decorates visible targets decoration := by
    rw [List.mem_flatMap, Document.decorates_iff_exists]
    simp only [fresh.mem_decorationsIn]
  have strict : Std.Asymm fun a b : Decoration => a.position < b.position :=
    ⟨fun _ _ => Nat.lt_asymm⟩
  have ordered : (buffer.decorations visible targets).Pairwise
      fun a b => a.position < b.position := by
    apply Decoration.arrange_ordered
    intro a first b second same
    exact ((members a).mp first).eq ((members b).mp second) same
  refine ordered.eq_of_mem_iff (Document.decorations_ordered visible targets) ?_
  intro decoration
  rw [Buffer.decorations, Decoration.mem_arrange, members, Document.mem_decorations]

/-- In a buffer over a text, after any changes, the decorations ascend strictly, and are those of
the target lines that meet one of the visible ranges. -/
theorem decorations_exact (text : String) (changes : List Change) (visible : List (Nat × Nat))
    (targets : List Nat) :
    ∃ buffer, (ofText text).applyAll changes = some buffer ∧
      let shown := buffer.decorations visible targets
      (shown.Pairwise fun a b => a.position < b.position) ∧
      (∀ decoration, decoration ∈ shown ↔
        ∃ line, buffer.line? decoration.line = some line ∧ decoration.position = line.start ∧
          decoration.line ∈ targets ∧ ∃ range ∈ visible, line.Meets buffer.length range) ∧
      shown = (Document.applyAll ⟨text.toList⟩ changes).decorations visible targets := by
  obtain ⟨buffer, carried, fresh, edited⟩ := exists_applyAll text changes
  refine ⟨buffer, carried, ?_, ?_, ?_⟩
  · rw [fresh.decorations]
    exact Document.decorations_ordered visible targets
  · intro decoration
    rw [fresh.decorations, Document.mem_decorations, Document.Decorates]
    simp only [fresh.line?, fresh.length]
  · rw [fresh.decorations, edited]

example : (ofText "ab\ncd").decorations [(1, 0), (4, 0)] [2, 1, 1, 7] = [⟨1, 0⟩] := by cbv

end Buffer

end StrategyDesk
