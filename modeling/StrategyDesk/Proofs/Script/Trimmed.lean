import StrategyDesk.Proofs.Script.ImportForm
import StrategyDesk.Proofs.Script.Piece

/-!
# What trimming leaves

Trimming takes the blanks at the ends of a text. A text without blanks at its ends is what is left
of it, whatever blanks stand around it.
-/

set_option autoImplicit false

namespace StrategyDesk.Script

/-- Whether no blank stands at the ends of a text. -/
structure Unpadded (text : Text) : Prop where
  begins : ∀ c ∈ text.head?, Text.isBlank c = false
  ends : ∀ c ∈ text.getLast?, Text.isBlank c = false

theorem Unpadded.of_solid {text : Text} (solid : ∀ c ∈ text, Text.isBlank c = false) :
    Unpadded text :=
  ⟨fun c first => solid c (List.mem_of_mem_head? first),
    fun c last => solid c (List.mem_of_getLast? last)⟩

theorem exists_trimEnd (text : Text) :
    ∃ gap, IsBlanks gap ∧ text = Text.trimEnd text ++ gap := by
  obtain ⟨taken, rest, split, run⟩ := exists_longestRun Text.isBlank text.reverse
  refine ⟨taken.reverse, fun c inside => run.within c (List.mem_reverse.mp inside), ?_⟩
  rw [Text.trimEnd, split, run.dropWhile_eq, ← List.reverse_append, ← split, List.reverse_reverse]

theorem exists_trim (text : Text) :
    ∃ lead trail, IsBlanks lead ∧ IsBlanks trail ∧ text = lead ++ (Text.trim text ++ trail) := by
  obtain ⟨lead, rest, split, run⟩ := exists_longestRun Text.isBlank text
  have started : Text.trimStart text = rest := by
    rw [Text.trimStart, split, run.dropWhile_eq]
  obtain ⟨trail, trails, split'⟩ := exists_trimEnd rest
  refine ⟨lead, trail, run.within, trails, ?_⟩
  rw [Text.trim, started, ← split', split]

theorem trimEnd_append {text trail : Text} (ends : ∀ c ∈ text.getLast?, Text.isBlank c = false)
    (trails : IsBlanks trail) : Text.trimEnd (text ++ trail) = text := by
  have run : LongestRun Text.isBlank trail.reverse text.reverse := by
    refine ⟨fun c inside => trails c (List.mem_reverse.mp inside), ?_⟩
    intro c first
    rw [List.head?_reverse] at first
    exact ends c first
  rw [Text.trimEnd, List.reverse_append, run.dropWhile_eq, List.reverse_reverse]

theorem trim_append {lead text trail : Text} (leads : IsBlanks lead) (trails : IsBlanks trail)
    (unpadded : Unpadded text) : Text.trim (lead ++ (text ++ trail)) = text := by
  cases text with
  | nil =>
      have started : Text.trimStart (lead ++ ([] ++ trail)) = [] := by
        rw [Text.trimStart, List.nil_append, List.dropWhile_eq_nil_iff]
        intro c inside
        exact (List.mem_append.mp inside).elim (leads c) (trails c)
      rw [Text.trim, started]
      rfl
  | cons c text =>
      have run := longestRun_blanks leads (unpadded.begins c rfl) (text ++ trail)
      have started : Text.trimStart (lead ++ (c :: text ++ trail)) = c :: text ++ trail :=
        run.dropWhile_eq
      rw [Text.trim, started, trimEnd_append unpadded.ends trails]

theorem trim_of_unpadded {text : Text} (unpadded : Unpadded text) : Text.trim text = text := by
  have trimmed := trim_append (List.forall_mem_nil _) (List.forall_mem_nil _) unpadded
  rwa [List.nil_append, List.append_nil] at trimmed

theorem unpadded_trim (text : Text) : Unpadded (Text.trim text) := by
  constructor
  · intro c first
    have stops := List.head?_dropWhile_not Text.isBlank text
    cases started : Text.trimStart text with
    | nil =>
        rw [Text.trim, started] at first
        cases first
    | cons d rest =>
        rw [← Text.trimStart, started] at stops
        have solid : Text.isBlank d = false := by simpa using stops
        obtain ⟨kept, trimmed, _⟩ := Text.trimEnd_cons solid rest
        rw [Text.trim, started, trimmed] at first
        cases first
        exact solid
  · intro c last
    rw [Text.trim, Text.trimEnd, List.getLast?_reverse] at last
    have stops := List.head?_dropWhile_not Text.isBlank (Text.trimStart text).reverse
    rw [Option.mem_def.mp last] at stops
    simpa using stops

end StrategyDesk.Script
