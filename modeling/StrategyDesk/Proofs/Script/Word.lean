import Mathlib.Data.List.Forall2
import StrategyDesk.Proofs.Script.Lexeme
import StrategyDesk.Proofs.Script.Reading

/-!
# Words around a place

Looked for from a place in a text, a word is what a run to the left and a run to the right come to.
The same word is found from every place in it and at its ends. Masking neither makes nor changes a
word: where a masked script has no space, it has what the script has.
-/

set_option autoImplicit false

namespace StrategyDesk.Script

/-! ## Runs that end at a place -/

/-- Whether a text is the longest run of a class at the end of what stands before it and itself. -/
structure LastRun (p : Char → Bool) (before taken : Text) : Prop where
  within : ∀ c ∈ taken, p c = true
  starts : ∀ c ∈ before.getLast?, p c = false

namespace LastRun

variable {p : Char → Bool} {before taken : Text}

theorem reverse (run : LastRun p before taken) : LongestRun p taken.reverse before.reverse where
  within c inside := run.within c (List.mem_reverse.mp inside)
  stops c first := by
    rw [List.head?_reverse] at first
    exact run.starts c first

theorem takeWhile_eq (run : LastRun p before taken) :
    ((before ++ taken).reverse.takeWhile p).reverse = taken := by
  rw [List.reverse_append, run.reverse.takeWhile_eq, List.reverse_reverse]

theorem dropWhile_eq (run : LastRun p before taken) :
    (before ++ taken).reverse.dropWhile p = before.reverse := by
  rw [List.reverse_append, run.reverse.dropWhile_eq]

end LastRun

theorem exists_lastRun (p : Char → Bool) (text : Text) :
    ∃ before taken, text = before ++ taken ∧ LastRun p before taken := by
  obtain ⟨taken, before, split, run⟩ := exists_longestRun p text.reverse
  refine ⟨before.reverse, taken.reverse, ?_, ?_, ?_⟩
  · rw [← List.reverse_append, ← split, List.reverse_reverse]
  · intro c inside
    exact run.within c (List.mem_reverse.mp inside)
  · intro c last
    rw [List.getLast?_reverse] at last
    exact run.stops c last

/-! ## Whole words -/

/-- Whether a word of the class stands in a text and goes on neither before nor behind it. -/
structure WholeWord (p : Char → Bool) (text front word rest : Text) : Prop where
  split : text = front ++ (word ++ rest)
  filled : word ≠ []
  begins : LastRun p front word
  ends : LongestRun p word rest

namespace WholeWord

variable {p : Char → Bool} {text front word rest : Text}

/-- From a place in the word, or at one of its ends, the runs to both sides make it up. -/
theorem runs_at (whole : WholeWord p text front word rest) {position : Nat}
    (lower : front.length ≤ position) (upper : position ≤ front.length + word.length) :
    ∃ left right, word = left ++ right ∧ position = front.length + left.length ∧
      ((text.take position).reverse.takeWhile p).reverse = left ∧
      (text.drop position).takeWhile p = right := by
  obtain ⟨inner, rfl⟩ := Nat.exists_eq_add_of_le lower
  have fits : inner ≤ word.length := by omega
  have parted : word = word.take inner ++ word.drop inner := (List.take_append_drop inner word).symm
  have taken : text.take (front.length + inner) = front ++ word.take inner := by
    rw [whole.split, List.take_length_add_append, List.take_append_of_le_length fits]
  have left : text.drop (front.length + inner) = word.drop inner ++ rest := by
    rw [whole.split, List.drop_length_add_append, List.drop_append_of_le_length fits]
  have before : LastRun p front (word.take inner) :=
    ⟨fun c inside => whole.begins.within c (List.mem_of_mem_take inside), whole.begins.starts⟩
  have behind : LongestRun p (word.drop inner) rest :=
    ⟨fun c inside => whole.ends.within c (List.mem_of_mem_drop inside), whole.ends.stops⟩
  refine ⟨_, _, parted, ?_, ?_, ?_⟩
  · rw [List.length_take, Nat.min_eq_left fits]
  · rw [taken, before.takeWhile_eq]
  · rw [left, behind.takeWhile_eq]

/-- What the runs to both sides of a place make up is a whole word, if it is anything. -/
theorem of_runs {left right : Text} (begins : LastRun p front left) (ends : LongestRun p right rest)
    (filled : left ++ right ≠ []) :
    WholeWord p ((front ++ left) ++ (right ++ rest)) front (left ++ right) rest where
  split := by simp only [List.append_assoc]
  filled := filled
  begins := ⟨fun c inside => (List.mem_append.mp inside).elim (begins.within c) (ends.within c),
    begins.starts⟩
  ends := ⟨fun c inside => (List.mem_append.mp inside).elim (begins.within c) (ends.within c),
    ends.stops⟩

end WholeWord

/-! ## Words beside a character -/

theorem side_of_stop {front word back left right : Text} {c : Char} (absent : c ∉ word)
    (same : front ++ (word ++ back) = left ++ c :: right) :
    (∃ between, left = front ++ (word ++ between)) ∨
      ∃ between, front = left ++ c :: between ∧ right = between ++ (word ++ back) := by
  rcases List.append_eq_append_iff.mp same with ⟨inside, rfl, split⟩ | ⟨beyond, rfl, split⟩
  · rcases List.append_eq_append_iff.mp split with ⟨between, rfl, _⟩ | ⟨overhang, rfl, split'⟩
    · exact Or.inl ⟨between, rfl⟩
    · cases overhang with
      | nil => exact Or.inl ⟨[], by simp⟩
      | cons d overhang =>
          obtain ⟨rfl, _⟩ := List.cons.inj split'
          exact absurd (by simp) absent
  · cases beyond with
    | nil =>
        cases word with
        | nil => exact Or.inl ⟨[], by simp⟩
        | cons d word =>
            obtain ⟨rfl, _⟩ := List.cons.inj split
            exact absurd List.mem_cons_self absent
    | cons d beyond =>
        obtain ⟨rfl, rfl⟩ := List.cons.inj split
        exact Or.inr ⟨beyond, rfl, rfl⟩

theorem infix_of_stop {word left right : Text} {c : Char} (absent : c ∉ word)
    (inside : word <:+: left ++ c :: right) : word <:+: left ∨ word <:+: right := by
  obtain ⟨front, back, same⟩ := inside
  rw [List.append_assoc] at same
  rcases side_of_stop absent same with ⟨between, rfl⟩ | ⟨between, rfl, rfl⟩
  · exact Or.inl ⟨front, between, List.append_assoc _ _ _⟩
  · exact Or.inr ⟨between, back, List.append_assoc _ _ _⟩

/-! ## Words of a masked script -/

/-- Whether a text has the characters of another one, or spaces in their places. -/
abbrev Masks (masked text : Text) : Prop :=
  List.Forall₂ (fun d c => d = c ∨ d = ' ') masked text

theorem masks_refl (text : Text) : Masks text text := List.forall₂_same.mpr fun _ _ => Or.inl rfl

theorem masks_blankOut (text : Text) : Masks (text.map blankOut) text := by
  rw [Masks, List.forall₂_map_left_iff, List.forall₂_same]
  intro c _
  unfold blankOut
  split
  next newline => exact Or.inl newline.symm
  next => exact Or.inr rfl

theorem Lexeme.masks (lexeme : Lexeme) : Masks lexeme.masked lexeme.text := by
  cases comment : lexeme.isComment with
  | true =>
      rw [masked_of_comment comment]
      exact masks_blankOut lexeme.text
  | false =>
      rw [masked_of_not_comment comment]
      exact masks_refl lexeme.text

theorem masks_mask (script : Text) : Masks (mask script) script := by
  obtain ⟨lexemes, rfl, readable⟩ := exists_reading script
  rw [mask_textOf readable]
  clear readable
  induction lexemes with
  | nil => exact .nil
  | cons lexeme rest ih =>
      rw [Lexeme.maskedOf_cons, Lexeme.textOf_cons]
      exact List.rel_append lexeme.masks ih

theorem Masks.eq_of_unspaced {masked text : Text} (masks : Masks masked text)
    (unspaced : ' ' ∉ masked) : masked = text := by
  induction masks with
  | nil => rfl
  | @cons d c masked text same later ih =>
      rw [List.mem_cons, not_or] at unspaced
      rw [same.resolve_right (Ne.symm unspaced.1), ih unspaced.2]

theorem slice_of_masked {script front word rest : Text}
    (split : mask script = front ++ (word ++ rest)) (unspaced : ' ' ∉ word) :
    script.slice front.length (front.length + word.length) = word := by
  have pieces : Masks (((mask script).take (front.length + word.length)).drop front.length)
      (script.slice front.length (front.length + word.length)) :=
    List.forall₂_drop front.length
      (List.forall₂_take (front.length + word.length) (masks_mask script))
  have masked : ((mask script).take (front.length + word.length)).drop front.length = word := by
    rw [split, List.take_length_add_append, List.drop_left, List.take_left]
  rw [masked] at pieces
  exact (pieces.eq_of_unspaced unspaced).symm

theorem exists_of_masked {script front word rest : Text}
    (split : mask script = front ++ (word ++ rest)) (unspaced : ' ' ∉ word) :
    ∃ front' rest', script = front' ++ (word ++ rest') ∧ front'.length = front.length := by
  have reached : front.length + word.length ≤ script.length := by
    rw [← mask_length script, split]
    simp
  have behind : script.drop front.length = word ++ script.drop (front.length + word.length) := by
    have within : front.length ≤ (script.take (front.length + word.length)).length := by
      rw [List.length_take, Nat.min_eq_left reached]
      exact Nat.le_add_right _ _
    have pieces := @List.drop_append_of_le_length _ _ (script.drop (front.length + word.length)) _
      within
    rwa [List.take_append_drop, ← Text.slice, slice_of_masked split unspaced] at pieces
  refine ⟨script.take front.length, script.drop (front.length + word.length), ?_, ?_⟩
  · rw [← behind, List.take_append_drop]
  · rw [List.length_take, Nat.min_eq_left ((Nat.le_add_right _ _).trans reached)]

end StrategyDesk.Script
