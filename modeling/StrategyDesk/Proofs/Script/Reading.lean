import Mathlib.Data.List.Basic
import Mathlib.Data.List.TakeWhile
import StrategyDesk.Script.Cursor

/-!
# What the readers of a cursor read

Each reader is said by the text that it moves over and by what may follow that text. A run of
characters of a class ends where a character of another class, or the end of the text, follows.
-/

set_option autoImplicit false

namespace StrategyDesk

namespace Text

theorem mem_of_covers {ranges : List (Nat × Nat)} {n : Nat} (covered : covers ranges n = true) :
    n ∈ ranges.flatMap fun range => List.range' range.1 (range.2 - range.1 + 1) := by
  induction ranges with
  | nil => cases covered
  | cons range rest ih =>
      obtain ⟨low, high⟩ := range
      rw [covers] at covered
      by_cases below : n < low
      · rw [if_pos below] at covered
        cases covered
      · rw [if_neg below, Bool.or_eq_true] at covered
        rw [List.flatMap_cons, List.mem_append]
        rcases covered with here | later
        · refine Or.inl (List.mem_range'_1.mpr ?_)
          have := of_decide_eq_true here
          omega
        · exact Or.inr (ih later)

theorem isNameChar_of_isBlank {c : Char} (blank : isBlank c = true) : isNameChar c = false := by
  have none_named : ∀ n ∈ blankRanges.flatMap fun range =>
      List.range' range.1 (range.2 - range.1 + 1),
      (covers alphabeticRanges n || covers decimalRanges n || covers wordMarkRanges n ||
        n == '$'.toNat) = false := by
    decide +kernel
  have here := none_named c.toNat (mem_of_covers blank)
  rw [Bool.or_eq_false_iff] at here
  refine Bool.or_eq_false_iff.mpr ⟨here.1, ?_⟩
  refine beq_eq_false_iff_ne.mpr ?_
  intro dollar
  rw [dollar] at here
  exact absurd here.2 (by decide)

theorem range_of_isAlpha {c : Char} (letter : c.isAlpha = true) :
    65 ≤ c.toNat ∧ c.toNat ≤ 90 ∨ 97 ≤ c.toNat ∧ c.toNat ≤ 122 := by
  rcases Bool.or_eq_true_iff.mp letter with upper | lower
  · exact Or.inl (of_decide_eq_true upper)
  · have bounds : (decide (c.val ≥ 'a'.val) && decide (c.val ≤ 'z'.val)) = true := lower
    rw [Bool.and_eq_true, decide_eq_true_iff, decide_eq_true_iff] at bounds
    exact Or.inr bounds

theorem covers_of_isAlpha {c : Char} (letter : c.isAlpha = true) :
    covers alphabeticRanges c.toNat = true := by
  obtain ⟨later, ranges⟩ : ∃ later,
      alphabeticRanges = (0x41, 0x5A) :: (0x61, 0x7A) :: later := ⟨_, rfl⟩
  have range := range_of_isAlpha letter
  have above : ¬ c.toNat < 65 := by omega
  rw [ranges, covers, covers]
  by_cases first : c.toNat ≤ 90
  · simp [above, first]
  · have second : ¬ c.toNat < 97 := by omega
    have within : c.toNat ≤ 122 := by omega
    simp [above, second, within]

theorem isNameChar_of_isNameStart {c : Char} (starts : isNameStart c = true) :
    isNameChar c = true := by
  simp only [isNameStart, Bool.or_eq_true, beq_iff_eq] at starts
  rcases starts with (letter | rfl) | rfl
  · simp [isNameChar, isWordChar, covers_of_isAlpha letter]
  · decide +kernel
  · rfl

end Text

namespace Script

/-- Whether a text is the longest run of a class at the front of itself and what follows it. -/
structure LongestRun (p : Char → Bool) (taken rest : Text) : Prop where
  within : ∀ c ∈ taken, p c = true
  stops : ∀ c ∈ rest.head?, p c = false

theorem exists_longestRun (p : Char → Bool) (text : Text) :
    ∃ taken rest, text = taken ++ rest ∧ LongestRun p taken rest := by
  refine ⟨text.takeWhile p, text.dropWhile p, List.takeWhile_append_dropWhile.symm, ?_, ?_⟩
  · intro c inside
    exact List.mem_takeWhile_imp inside
  · intro c first
    have stops := List.head?_dropWhile_not p text
    rw [Option.mem_def.mp first] at stops
    simpa using stops

namespace LongestRun

variable {p : Char → Bool} {taken rest : Text}

theorem takeWhile_eq (run : LongestRun p taken rest) : (taken ++ rest).takeWhile p = taken := by
  rw [List.takeWhile_append_of_pos run.within]
  cases rest with
  | nil => rw [List.takeWhile_nil, List.append_nil]
  | cons c rest =>
      rw [List.takeWhile_cons_of_neg, List.append_nil]
      rw [run.stops c rfl]
      exact Bool.false_ne_true

theorem dropWhile_eq (run : LongestRun p taken rest) : (taken ++ rest).dropWhile p = rest := by
  rw [List.dropWhile_append_of_pos run.within]
  cases rest with
  | nil => rfl
  | cons c rest =>
      rw [List.dropWhile_cons_of_neg]
      rw [run.stops c rfl]
      exact Bool.false_ne_true

end LongestRun

theorem LongestRun.of_stop {p : Char → Bool} {taken : Text} (within : ∀ c ∈ taken, p c = true)
    {c : Char} (stop : p c = false) (rest : Text) : LongestRun p taken (c :: rest) := by
  refine ⟨within, ?_⟩
  intro d first
  cases first
  exact stop

def IsName (name : Text) : Prop :=
  (∃ c ∈ name.head?, Text.isNameStart c = true) ∧ ∀ c ∈ name, Text.isNameChar c = true

theorem IsName.head {name : Text} (named : IsName name) :
    ∃ c later, name = c :: later ∧ Text.isNameStart c = true := by
  obtain ⟨⟨c, first, starts⟩, _⟩ := named
  cases name with
  | nil => cases first
  | cons d later =>
      cases first
      exact ⟨c, later, rfl, starts⟩

namespace Cursor

variable {position : Nat} {text : Text}

theorem word?_append (word rest : Text) :
    word? word ⟨position, word ++ rest⟩ = some ⟨position + word.length, rest⟩ := by
  rw [word?, List.isPrefixOf?_eq_some_iff_append_eq.mpr rfl, Option.map_some]

theorem word?_sound {word : Text} {after : Cursor}
    (found : word? word ⟨position, text⟩ = some after) :
    ∃ rest, text = word ++ rest ∧ after = ⟨position + word.length, rest⟩ := by
  simp only [word?, Option.map_eq_some_iff, List.isPrefixOf?_eq_some_iff_append_eq] at found
  obtain ⟨rest, split, rfl⟩ := found
  exact ⟨rest, split.symm, rfl⟩

theorem one?_cons {p : Char → Bool} {c : Char} (passes : p c = true) (rest : Text) :
    one? p ⟨position, c :: rest⟩ = some ⟨position + 1, rest⟩ := by
  simp only [one?, if_pos passes]

theorem one?_char (c : Char) (rest : Text) :
    one? (fun d => d == c) ⟨position, c :: rest⟩ = some ⟨position + 1, rest⟩ := by
  have same : (c == c) = true := beq_self_eq_true c
  simp only [one?, if_pos same]

theorem one?_sound {p : Char → Bool} {after : Cursor}
    (found : one? p ⟨position, text⟩ = some after) :
    ∃ c rest, p c = true ∧ text = c :: rest ∧ after = ⟨position + 1, rest⟩ := by
  cases text with
  | nil => cases found
  | cons c rest =>
      by_cases passes : p c = true
      · rw [one?_cons passes] at found
        cases found
        exact ⟨c, rest, passes, rfl, rfl⟩
      · simp only [one?, if_neg passes] at found
        cases found

theorem run_append {p : Char → Bool} {taken rest : Text} (run : LongestRun p taken rest) :
    Cursor.run p ⟨position, taken ++ rest⟩ =
      (⟨position, taken⟩, ⟨position + taken.length, rest⟩) := by
  simp only [Cursor.run, run.takeWhile_eq, run.dropWhile_eq]

theorem run?_append {p : Char → Bool} {taken rest : Text} (filled : taken ≠ [])
    (run : LongestRun p taken rest) :
    run? p ⟨position, taken ++ rest⟩ =
      some (⟨position, taken⟩, ⟨position + taken.length, rest⟩) := by
  simp only [run?, run_append run, if_neg filled]

theorem run?_sound {p : Char → Bool} {span : Span} {after : Cursor}
    (found : run? p ⟨position, text⟩ = some (span, after)) :
    ∃ taken rest, taken ≠ [] ∧ LongestRun p taken rest ∧ text = taken ++ rest ∧
      span = ⟨position, taken⟩ ∧ after = ⟨position + taken.length, rest⟩ := by
  obtain ⟨taken, rest, rfl, run⟩ := exists_longestRun p text
  by_cases filled : taken = []
  · simp only [run?, run_append run, if_pos filled] at found
    cases found
  · rw [run?_append filled run] at found
    cases found
    exact ⟨taken, rest, filled, run, rfl, rfl, rfl⟩

theorem blanks_append {taken rest : Text} (run : LongestRun Text.isBlank taken rest) :
    blanks ⟨position, taken ++ rest⟩ = ⟨position + taken.length, rest⟩ := by
  rw [blanks, run_append run]

theorem blanks?_append {taken rest : Text} (filled : taken ≠ [])
    (run : LongestRun Text.isBlank taken rest) :
    blanks? ⟨position, taken ++ rest⟩ = some ⟨position + taken.length, rest⟩ := by
  rw [blanks?, run?_append filled run, Option.map_some]

theorem blanks?_sound {after : Cursor} (found : blanks? ⟨position, text⟩ = some after) :
    ∃ taken rest, taken ≠ [] ∧ LongestRun Text.isBlank taken rest ∧ text = taken ++ rest ∧
      after = ⟨position + taken.length, rest⟩ := by
  rw [blanks?, Option.map_eq_some_iff] at found
  obtain ⟨⟨span, after⟩, found, rfl⟩ := found
  obtain ⟨taken, rest, filled, run, split, _, same⟩ := run?_sound found
  exact ⟨taken, rest, filled, run, split, same⟩

theorem name?_append {name rest : Text} (named : IsName name)
    (run : LongestRun Text.isNameChar name rest) :
    name? ⟨position, name ++ rest⟩ = some (⟨position, name⟩, ⟨position + name.length, rest⟩) := by
  obtain ⟨c, later, rfl, starts⟩ := named.head
  have read : Cursor.run Text.isNameChar ⟨position, c :: (later ++ rest)⟩ = _ := run_append run
  simp only [name?, List.cons_append, if_pos starts, read]

theorem name?_sound {span : Span} {after : Cursor}
    (found : name? ⟨position, text⟩ = some (span, after)) :
    ∃ name rest, IsName name ∧ LongestRun Text.isNameChar name rest ∧ text = name ++ rest ∧
      span = ⟨position, name⟩ ∧ after = ⟨position + name.length, rest⟩ := by
  cases text with
  | nil => cases found
  | cons c later =>
      by_cases starts : Text.isNameStart c = true
      · obtain ⟨name, rest, split, run⟩ := exists_longestRun Text.isNameChar (c :: later)
        have named : IsName name := by
          refine ⟨?_, run.within⟩
          cases name with
          | nil =>
              have stops := run.stops c (by rw [← List.nil_append rest, ← split]; rfl)
              rw [Text.isNameChar_of_isNameStart starts] at stops
              cases stops
          | cons first name =>
              obtain ⟨rfl, _⟩ := List.cons.inj split
              exact ⟨c, rfl, starts⟩
        rw [split, name?_append named run] at found
        cases found
        exact ⟨name, rest, named, run, split, rfl, rfl⟩
      · simp only [name?, if_neg starts] at found
        cases found

end Cursor

end Script

end StrategyDesk
