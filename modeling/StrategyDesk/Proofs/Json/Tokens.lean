import Mathlib.Data.List.Basic
import StrategyDesk.Json.Printer
import StrategyDesk.Json.Reader
import StrategyDesk.Proofs.Script.Reading

/-!
# Reading printed strings and numbers

The reader undoes the printer on a single token. Each character of a string becomes one unit of the
reader, whatever escape it was printed with; a number is read back when what follows cannot belong
to it.
-/

set_option autoImplicit false

namespace StrategyDesk.Json

open Script (LongestRun)

/-! ## Strings -/

/-- The characters that are printed as a backslash and one letter. -/
def shortEscapes : List (Char × Char) :=
  [('"', '"'), ('\\', '\\'), ('\n', 'n'), ('\r', 'r'), ('\t', 't'), ('\x08', 'b'), ('\x0c', 'f')]

def isNumbered (c : Char) : Bool := c.toNat < 32 && !(shortEscapes.map Prod.fst).contains c

def unitOf (c : Char) : StringUnit := if isNumbered c then .code c.toNat else .char c

theorem numbered_small {c : Char} (numbered : isNumbered c = true) : c.toNat < 32 := by
  rw [isNumbered, Bool.and_eq_true] at numbered
  exact of_decide_eq_true numbered.1

theorem hexValue?_hexDigit {n : Nat} (small : n < 16) : hexValue? (hexDigit n) = some n := by
  have every : ∀ n : Fin 16, hexValue? (hexDigit n) = some n.val := by decide +kernel
  exact every ⟨n, small⟩

theorem stringUnits?_short {c letter : Char} (listed : (c, letter) ∈ shortEscapes) (rest : Text) :
    stringUnits? ('\\' :: letter :: rest) =
      (stringUnits? rest).map fun (units, after) => (.char c :: units, after) := by
  have read : letter ≠ 'u' ∧ shortEscape? letter = some c := by
    have every : ∀ pair ∈ shortEscapes, pair.2 ≠ 'u' ∧ shortEscape? pair.2 = some pair.1 := by
      decide
    exact every _ listed
  rw [stringUnits?, read.2]
  · cases stringUnits? rest <;> rfl
  · intro a b d e later same
    exact absurd same read.1

example : stringUnits? "\\n\"".toList = some ([.char '\n'], []) := by cbv

theorem stringUnits?_code {n : Nat} (small : n < 256) (rest : Text) :
    stringUnits? ('\\' :: 'u' :: '0' :: '0' :: hexDigit (n / 16) :: hexDigit (n % 16) :: rest) =
      (stringUnits? rest).map fun (units, after) => (.code n :: units, after) := by
  have zero : hexValue? '0' = some 0 := rfl
  have high : hexValue? (hexDigit (n / 16)) = some (n / 16) := hexValue?_hexDigit (by omega)
  have low : hexValue? (hexDigit (n % 16)) = some (n % 16) := hexValue?_hexDigit (by omega)
  have whole : n / 16 * 16 + n % 16 = n := by omega
  rw [stringUnits?, zero, high, low]
  cases stringUnits? rest with
  | none => rfl
  | some found => simp [whole]

theorem stringUnits?_plain {c : Char} (quote : c ≠ '"') (backslash : c ≠ '\\')
    (printable : ¬ c.toNat < 32) (rest : Text) :
    stringUnits? (c :: rest) =
      (stringUnits? rest).map fun (units, after) => (.char c :: units, after) := by
  rw [stringUnits?, if_neg (not_or.mpr ⟨printable, backslash⟩)]
  · exact quote
  · intro a b d e later same
    exact absurd same backslash
  · intro a later same
    exact absurd same backslash

/-- The three ways in which a character is printed. -/
theorem escapeChar_cases (c : Char) :
    (∃ letter, (c, letter) ∈ shortEscapes ∧ escapeChar c = ['\\', letter]) ∨
    (isNumbered c = true ∧
      escapeChar c = ['\\', 'u', '0', '0', hexDigit (c.toNat / 16), hexDigit (c.toNat % 16)]) ∨
    (c ≠ '"' ∧ c ≠ '\\' ∧ ¬ c.toNat < 32 ∧ escapeChar c = [c]) := by
  by_cases short : c ∈ shortEscapes.map Prod.fst
  · obtain ⟨⟨d, letter⟩, listed, rfl⟩ := List.mem_map.mp short
    have every : ∀ pair ∈ shortEscapes, escapeChar pair.1 = ['\\', pair.2] := by decide
    exact Or.inl ⟨letter, listed, every _ listed⟩
  · have others :
        c ≠ '"' ∧ c ≠ '\\' ∧ c ≠ '\n' ∧ c ≠ '\r' ∧ c ≠ '\t' ∧ c ≠ '\x08' ∧ c ≠ '\x0c' := by
      simpa [shortEscapes] using short
    obtain ⟨quote, backslash, feed, back, tab, erase, page⟩ := others
    have eight : c.toNat ≠ 8 := by
      intro same
      exact erase (Char.toNat_inj.mp same)
    have twelve : c.toNat ≠ 12 := by
      intro same
      exact page (Char.toNat_inj.mp same)
    simp only [escapeChar, quote, backslash, feed, back, tab, eight, twelve, if_false]
    by_cases control : c.toNat < 32
    · refine Or.inr (Or.inl ⟨?_, if_pos control⟩)
      simpa [isNumbered, control] using short
    · exact Or.inr (Or.inr ⟨quote, backslash, control, if_neg control⟩)

theorem stringUnits?_escapeChar (c : Char) (rest : Text) :
    stringUnits? (escapeChar c ++ rest) =
      (stringUnits? rest).map fun (units, after) => (unitOf c :: units, after) := by
  rcases escapeChar_cases c with ⟨letter, listed, printed⟩ | ⟨numbered, printed⟩ |
    ⟨quote, backslash, printable, printed⟩
  · have direct : isNumbered c = false := by
      have every : ∀ pair ∈ shortEscapes, isNumbered pair.1 = false := by decide
      exact every _ listed
    rw [printed, unitOf, direct]
    exact stringUnits?_short listed rest
  · have small := numbered_small numbered
    rw [printed, unitOf, if_pos numbered]
    exact stringUnits?_code (by omega) rest
  · have direct : isNumbered c = false := by
      rw [isNumbered, decide_eq_false printable, Bool.false_and]
    rw [printed, unitOf, direct]
    exact stringUnits?_plain quote backslash printable rest

/-- A printed string, closing quote included, is read as the units of its characters. -/
theorem stringUnits?_printed (text rest : Text) :
    stringUnits? (text.flatMap escapeChar ++ '"' :: rest) = some (text.map unitOf, rest) := by
  induction text with
  | nil => rw [List.flatMap_nil, List.nil_append, stringUnits?, List.map_nil]
  | cons c text hypothesis =>
      rw [List.flatMap_cons, List.append_assoc, stringUnits?_escapeChar, hypothesis, List.map_cons,
        Option.map_some]

theorem unitsText?_code {n : Nat} (small : n < 0xD800) (units : List StringUnit) :
    unitsText? (.code n :: units) = (unitsText? units).map (Char.ofNat n :: ·) := by
  have noHigh : ¬ (0xD800 ≤ n ∧ n < 0xDC00) := by omega
  have noLow : ¬ (0xDC00 ≤ n ∧ n < 0xE000) := by omega
  have noHalf : ¬ (0xD800 ≤ n ∧ n < 0xE000) := by omega
  by_cases paired : ∃ low later, units = .code low :: later
  · obtain ⟨low, later, rfl⟩ := paired
    rw [unitsText?, unitsAs?, if_neg noHigh, if_neg noLow]
    rfl
  · rw [unitsText?, unitsAs?, if_neg noHalf]
    · rfl
    · intro low later same
      exact paired ⟨low, later, same⟩

theorem unitsText?_units (text : Text) : unitsText? (text.map unitOf) = some text := by
  induction text with
  | nil => rfl
  | cons c text hypothesis =>
      rw [List.map_cons]
      by_cases numbered : isNumbered c = true
      · have small := numbered_small numbered
        rw [unitOf, if_pos numbered, unitsText?_code (by omega), hypothesis, Option.map_some,
          Char.ofNat_toNat]
      · rw [unitOf, if_neg numbered, unitsText?, unitsAs?, ← unitsText?, hypothesis,
          Option.map_some]
        rfl

theorem ofUnits_units (text : String) :
    ofUnits unitsText? (text.toList.map unitOf) = .string text := by
  rw [ofUnits, unitsText?_units]
  exact congrArg Json.string String.ofList_toList

/-! ## Numbers -/

/-- What may follow a number: nothing that would be read as a part of it. -/
def EndsNumber (rest : Text) : Prop :=
  ∀ c ∈ rest.head?, c.isDigit = false ∧ c ≠ '.' ∧ c ≠ 'e' ∧ c ≠ 'E'

theorem digits?_toDigits (n : Nat) {rest : Text} (ends : EndsNumber rest) :
    digits? (Nat.toDigits 10 n ++ rest) = some (Nat.toDigits 10 n, rest) := by
  have run : LongestRun Char.isDigit (Nat.toDigits 10 n) rest := by
    refine ⟨?_, fun c first => (ends c first).1⟩
    intro c inside
    exact Nat.isDigit_of_mem_toDigits (b := 10) (by decide) (by decide) inside
  rw [digits?, run.takeWhile_eq, run.dropWhile_eq]
  split
  · exact absurd ‹_› Nat.toDigits_ne_nil
  · rfl

theorem head?_toDigits {n : Nat} (leading : (Nat.toDigits 10 n).head? = some '0') : n = 0 := by
  induction n using Nat.strongRecOn with
  | ind n hypothesis =>
      by_cases small : n < 10
      · have every : ∀ n : Fin 10, (Nat.toDigits 10 n.val).head? = some '0' → n.val = 0 := by decide
        exact every ⟨n, small⟩ leading
      · rw [Nat.toDigits_of_base_le (by decide) (by omega), List.head?_append] at leading
        rw [Option.or_of_isSome (by simp [Nat.toDigits_ne_nil])] at leading
        have zero := hypothesis (n / 10) (by omega) leading
        omega

theorem unsigned?_toDigits (negative : Bool) (n : Nat) {rest : Text} (ends : EndsNumber rest) :
    unsigned? negative (Nat.toDigits 10 n ++ rest) = some (ofInteger negative n, rest) := by
  have single : ¬ ((Nat.toDigits 10 n).head? = some '0' ∧ (Nat.toDigits 10 n).length ≠ 1) := by
    rintro ⟨leading, longer⟩
    rw [head?_toDigits leading] at longer
    exact longer rfl
  have whole : fraction? rest = some (none, rest) := by
    cases rest with
    | nil => rfl
    | cons c rest =>
        rw [fraction?]
        intro later same
        exact (ends c rfl).2.1 (List.cons.inj same).1
  have plain : exponent? rest = some (none, rest) := by
    cases rest with
    | nil => rfl
    | cons c rest =>
        have letters := (ends c rfl).2.2
        simp only [exponent?, letters, or_self, if_false]
  simp [unsigned?, digits?_toDigits n ends, single, whole, plain, Nat.ofDigitChars_toDigits]

theorem number?_printInteger {value : Int} (bounded : value.natAbs < doubleBound) {rest : Text}
    (ends : EndsNumber rest) :
    number? (printInteger value ++ rest) = some (.integer value, rest) := by
  by_cases negative : value < 0
  · rw [printInteger, if_pos negative, List.cons_append, number?, unsigned?_toDigits true _ ends,
      ofInteger, if_neg (by omega), if_pos rfl, if_neg (by omega)]
    have same : -(value.natAbs : Int) = value := by omega
    rw [same]
  · rw [printInteger, if_neg negative, number?, unsigned?_toDigits false _ ends, ofInteger,
      if_neg (by omega), if_neg Bool.false_ne_true]
    · have same : (value.natAbs : Int) = value := by omega
      rw [same]
    · intro later same
      have first : '-' ∈ Nat.toDigits 10 value.natAbs := by
        cases printed : Nat.toDigits 10 value.natAbs with
        | nil => exact absurd printed Nat.toDigits_ne_nil
        | cons c digits =>
            rw [printed, List.cons_append] at same
            cases same
            exact List.mem_cons_self
      have digit := Nat.isDigit_of_mem_toDigits (b := 10) (by decide) (by decide) first
      cases digit

end StrategyDesk.Json
