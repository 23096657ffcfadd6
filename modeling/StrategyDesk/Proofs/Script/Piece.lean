import StrategyDesk.Proofs.Script.Occurrence

/-!
# Pieces of a text

What a reader names lies somewhere in the text that it took, and what a search finds lies one behind
the other. So a place that is told of a piece of a piece is a place in the whole text, and what is
found one after the other is told in the order of the text.
-/

set_option autoImplicit false

namespace StrategyDesk

/-! ## What trimming leaves -/

namespace Text

theorem trimEnd_cons {c : Char} (solid : isBlank c = false) (rest : Text) :
    ∃ kept, trimEnd (c :: rest) = c :: kept ∧ kept <+: rest := by
  have alone : [c].dropWhile isBlank = [c] := by simp [solid]
  rw [trimEnd, List.reverse_cons, List.dropWhile_append, alone]
  split
  · exact ⟨[], rfl, List.nil_prefix⟩
  · refine ⟨(rest.reverse.dropWhile isBlank).reverse, by simp, ?_⟩
    rw [← List.reverse_suffix, List.reverse_reverse]
    exact List.dropWhile_suffix isBlank

theorem trim_cons {c : Char} (solid : isBlank c = false) (rest : Text) :
    ∃ kept, trim (c :: rest) = c :: kept ∧ kept <+: rest := by
  have started : trimStart (c :: rest) = c :: rest := by simp [trimStart, solid]
  rw [trim, started]
  exact trimEnd_cons solid rest

/-- A text that is not blank begins, behind its leading blanks, with what trimming leaves. -/
theorem exists_trimmed {text : Text} (filled : trim text ≠ []) :
    ∃ c kept rest, isBlank c = false ∧ trim text = c :: kept ∧
      text = text.takeWhile isBlank ++ c :: (kept ++ rest) := by
  have split : text.takeWhile isBlank ++ text.dropWhile isBlank = text :=
    List.takeWhile_append_dropWhile
  cases started : text.dropWhile isBlank with
  | nil =>
      rw [trim, trimStart, started] at filled
      exact absurd rfl filled
  | cons c later =>
      have solid : isBlank c = false := by
        have stops := List.head?_dropWhile_not isBlank text
        rw [started] at stops
        simpa using stops
      obtain ⟨kept, trimmed, rest, rfl⟩ := trimEnd_cons solid later
      refine ⟨c, kept, rest, solid, ?_, ?_⟩
      · rw [trim, trimStart, started, trimmed]
      · rw [← started, split]

theorem cutAt?_sound {word text before after : Text}
    (cut : cutAt? word text = some (before, after)) : text = before ++ (word ++ after) := by
  induction text generalizing before with
  | nil =>
      cases word with
      | nil =>
          cases cut
          rfl
      | cons c word => cases cut
  | cons c text ih =>
      rw [cutAt?] at cut
      split at cut
      next rest found =>
        cases cut
        exact (List.isPrefixOf?_eq_some_iff_append_eq.mp found).symm
      next =>
        obtain ⟨⟨first, rest⟩, later, same⟩ := Option.map_eq_some_iff.mp cut
        cases same
        rw [ih later, List.cons_append]

end Text

namespace Script

/-! ## Spans that lie in a text -/

/-- Whether a span is a piece of a text that begins at a position. -/
def Span.LiesIn (span : Span) (position : Nat) (text : Text) : Prop :=
  ∃ before after, text = before ++ (span.text ++ after) ∧ span.start = position + before.length

namespace Span.LiesIn

variable {position : Nat} {text : Text} {span inner : Span}

theorem between (position : Nat) (front text rest : Text) :
    LiesIn ⟨position + front.length, text⟩ position (front ++ (text ++ rest)) :=
  ⟨front, rest, rfl, rfl⟩

theorem trans (lies : inner.LiesIn span.start span.text) (within : span.LiesIn position text) :
    inner.LiesIn position text := by
  obtain ⟨before, after, split, start⟩ := lies
  obtain ⟨front, rest, rfl, start'⟩ := within
  refine ⟨front ++ before, after ++ rest, ?_, ?_⟩
  · rw [split]
    simp only [List.append_assoc]
  · rw [start, start', List.length_append]
    omega

theorem bounds (lies : span.LiesIn position text) :
    position ≤ span.start ∧ span.start + span.text.length ≤ position + text.length := by
  obtain ⟨before, after, rfl, start⟩ := lies
  simp only [List.length_append]
  omega

theorem slice_eq (lies : span.LiesIn 0 text) :
    text.slice span.start (span.start + span.text.length) = span.text := by
  obtain ⟨before, after, rfl, start⟩ := lies
  rw [Nat.zero_add] at start
  rw [Text.slice, start, ← List.append_assoc, ← List.length_append,
    List.take_append_of_le_length (Nat.le_refl _), List.take_length, List.drop_left]

end Span.LiesIn

/-! ## Places in the order of the text -/

section

variable {α : Type} {admits : Option Char → Bool} {read? : Cursor → Option (α × Cursor)}

def Advances (read? : Cursor → Option (α × Cursor)) : Prop :=
  ∀ {position : Nat} {text : Text} {found : α} {after : Cursor},
    read? ⟨position, text⟩ = some (found, after) → position < after.position

theorem start_of_mem_occurrencesFrom {skip position : Nat} {before : Option Char} {text : Text}
    {place : Placed α}
    (occurs : place ∈ occurrencesFrom admits (placed read?) skip position before text) :
    position + skip ≤ place.start := by
  induction text generalizing skip position before with
  | nil => cases skip <;> cases occurs
  | cons c text ih =>
      cases skip with
      | succ skip =>
          have later := ih occurs
          omega
      | zero =>
          rcases occurrencesFrom_step admits (placed read?) position before c text with ⟨first, after, _, read, step⟩ | ⟨_, step⟩
          · obtain ⟨_, start, _⟩ := placed_eq_some_iff.mp read
            rw [step] at occurs
            rcases List.mem_cons.mp occurs with rfl | later
            · omega
            · have further := ih later
              omega
          · rw [step] at occurs
            have later := ih occurs
            omega

theorem occurrencesFrom_pairwise (advances : Advances read?) (skip position : Nat)
    (before : Option Char) (text : Text) :
    (occurrencesFrom admits (placed read?) skip position before text).Pairwise
      fun first second => first.stop ≤ second.start := by
  induction text generalizing skip position before with
  | nil => cases skip <;> exact List.Pairwise.nil
  | cons c text ih =>
      cases skip with
      | succ skip => exact ih skip (position + 1) (some c)
      | zero =>
          rcases occurrencesFrom_step admits (placed read?) position before c text with ⟨first, after, _, read, step⟩ | ⟨_, step⟩
          · obtain ⟨moves, _, stop⟩ := placed_eq_some_iff.mp read
            have advance := advances moves
            rw [step]
            refine List.pairwise_cons.mpr ⟨?_, ih _ _ _⟩
            intro place later
            have start := start_of_mem_occurrencesFrom later
            omega
          · rw [step]
            exact ih _ _ _

/-- What is read at a place is found there, unless the place is strictly inside another one that is
found. -/
theorem mem_occurrencesFrom_iff {skip position : Nat} {before : Option Char} {front : Text}
    {c : Char} {rest : Text} {place : Placed α} {after : Cursor}
    (read : placed read? ⟨position + front.length, c :: rest⟩ = some (place, after)) :
    place ∈ occurrencesFrom anywhere (placed read?) skip position before (front ++ c :: rest) ↔
      skip ≤ front.length ∧
        ∀ other ∈ occurrencesFrom anywhere (placed read?) skip position before (front ++ c :: rest),
          ¬ (other.start < place.start ∧ place.start < other.stop) := by
  induction front generalizing skip position before with
  | nil =>
      obtain ⟨_, start, _⟩ := placed_eq_some_iff.mp read
      rw [List.length_nil, Nat.add_zero] at start
      cases skip with
      | succ skip =>
          refine iff_of_false ?_ fun both => absurd both.1 (Nat.not_succ_le_zero skip)
          intro occurs
          have late := start_of_mem_occurrencesFrom occurs
          omega
      | zero =>
          have step : occurrencesFrom anywhere (placed read?) 0 position before ([] ++ c :: rest) =
              _ := occurrencesFrom_cons_of_some rfl read
          refine iff_of_true ?_ ⟨Nat.le_refl 0, ?_⟩
          · rw [step]
            exact List.mem_cons_self
          · intro other occurs
            have late := start_of_mem_occurrencesFrom occurs
            omega
  | cons d front ih =>
      obtain ⟨_, start, _⟩ := placed_eq_some_iff.mp read
      rw [place_cons] at read start
      cases skip with
      | succ skip =>
          have later := @ih skip (position + 1) (some d) read
          rw [List.length_cons, Nat.succ_le_succ_iff]
          exact later
      | zero =>
          rcases occurrencesFrom_step anywhere (placed read?) position before d
            (front ++ c :: rest) with ⟨first, after', _, read', step⟩ | ⟨_, step⟩
          · obtain ⟨_, start', stop'⟩ := placed_eq_some_iff.mp read'
            have other_place : place ≠ first := by
              rintro rfl
              omega
            rw [List.cons_append, step, List.mem_cons, or_iff_right other_place, ih read,
              List.forall_mem_cons]
            have reach : after'.position - position - 1 ≤ front.length ↔
                ¬ (first.start < place.start ∧ place.start < first.stop) := by
              omega
            rw [reach]
            simp only [Nat.zero_le, true_and]
          · rw [List.cons_append, step, ih read]
            simp only [Nat.zero_le, true_and]

end

end Script

end StrategyDesk
