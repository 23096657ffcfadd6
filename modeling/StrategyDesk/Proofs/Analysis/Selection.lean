import Mathlib.Data.Char
import Mathlib.Data.List.Lex
import StrategyDesk.Analysis.Structural
import StrategyDesk.Proofs.Script.Reading
import StrategyDesk.Proofs.Text.Repetition

/-!
# The completions that are selected

Behind a name and a point a property is being typed, of which there may be a beginning. Of the
candidates that begin with what was typed, each name is offered once, and the names ascend.
-/

set_option autoImplicit false

namespace StrategyDesk.Structural

/-! ## Names in order -/

def sameName (a b : Text × String) : Bool := a.1 == b.1

/-- What is selected comes from candidates that begin with the stem. Each of their names is there,
and the names ascend. -/
theorem select_eq (stem : Text) (candidates : List (Text × String)) :
    ∃ chosen : List (Text × String),
      select stem candidates = chosen.map (fun (name, kind) => ⟨String.ofList name, kind⟩) ∧
      chosen.Pairwise (fun a b => a.1 < b.1) ∧
      (∀ candidate ∈ chosen, candidate ∈ candidates ∧ stem <+: candidate.1) ∧
      ∀ candidate ∈ candidates, stem <+: candidate.1 → candidate.1 ∈ chosen.map Prod.fst := by
  let fitting := candidates.filter fun candidate => stem.isPrefixOf candidate.1
  let sorted := fitting.mergeSort fun a b => !decide (b.1 < a.1)
  have transitive (a b c : Text × String) : !decide (b.1 < a.1) → !decide (c.1 < b.1) →
      !decide (c.1 < a.1) := by
    simp only [Bool.not_eq_true', decide_eq_false_iff_not, not_lt]
    exact le_trans
  have total (a b : Text × String) : !decide (b.1 < a.1) || !decide (a.1 < b.1) := by
    simp only [Bool.or_eq_true, Bool.not_eq_true', decide_eq_false_iff_not, not_lt]
    exact le_total a.1 b.1
  have ordered : sorted.Pairwise fun a b => a.1 ≤ b.1 := by
    refine (List.pairwise_mergeSort transitive total fitting).imp ?_
    intro a b above
    simpa using above
  have members (candidate : Text × String) :
      candidate ∈ sorted ↔ candidate ∈ candidates ∧ stem <+: candidate.1 := by
    rw [List.mem_mergeSort, List.mem_filter, List.isPrefixOf_iff_prefix]
  have apart (a : Text × String) (_ : a ∈ sorted) (b : Text × String) (_ : b ∈ sorted)
      (names : a.1 = b.1) : sameName a b = true := beq_iff_eq.mpr names
  refine ⟨sorted.eraseRepsBy sameName, rfl, eraseReps_ascend sameName apart ordered, ?_, ?_⟩
  · intro candidate kept
    exact (members candidate).mp (mem_of_mem_eraseReps _ kept)
  · intro candidate held fits
    exact mem_map_eraseReps sameName (fun _ _ => beq_iff_eq.mp)
      (List.mem_map_of_mem ((members candidate).mpr ⟨held, fits⟩))

/-! ## What is being typed -/

open Script

theorem typingAt_property {front object stem : Text}
    (ends : ∀ c ∈ front.getLast?, Text.isNameChar c = false) (named : IsName object)
    (within : ∀ c ∈ stem, Text.isNameChar c = true) :
    typingAt (front ++ (object ++ '.' :: stem)) = .property object stem := by
  have point : Text.isNameChar '.' = false := by decide +kernel
  have turned : (front ++ (object ++ '.' :: stem)).reverse =
      stem.reverse ++ '.' :: (object.reverse ++ front.reverse) := by
    simp only [List.reverse_append, List.reverse_cons, List.append_assoc, List.cons_append,
      List.nil_append]
  have typed : LongestRun Text.isNameChar stem.reverse
      ('.' :: (object.reverse ++ front.reverse)) :=
    .of_stop (fun c inside => within c (List.mem_reverse.mp inside)) point _
  have before : LongestRun Text.isNameChar object.reverse front.reverse := by
    refine ⟨fun c inside => named.2 c (List.mem_reverse.mp inside), ?_⟩
    rw [List.head?_reverse]
    exact ends
  obtain ⟨c, later, rfl, starts⟩ := named.head
  have whole : (c :: later).dropWhile (fun c => !Text.isNameStart c) = c :: later :=
    List.dropWhile_cons_of_neg (by simp [starts])
  simp only [typingAt, turned, typed.takeWhile_eq, typed.dropWhile_eq, before.takeWhile_eq,
    List.reverse_reverse, whole]

end StrategyDesk.Structural
