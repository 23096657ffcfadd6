import StrategyDesk.Session

/-!
# How findings are displayed

An error or a warning is displayed as far as its length says, cut at the end of the document. Only
if its end exceeds the words of the machine the program dies over it, and with it the pass over all
findings. Suggestions and messages are not displayed, and no one dies over them.
-/

set_option autoImplicit false

namespace StrategyDesk

theorem addWords?_of_fits {a b : Nat} (fits : a + b < wordValues 64) :
    addWords? a b = some (a + b) := if_pos fits

theorem addWords?_of_exceeds {a b : Nat} (exceeds : wordValues 64 ≤ a + b) :
    addWords? a b = none := if_neg (Nat.not_lt_of_le exceeds)

namespace Finding

def isShown (finding : Finding) : Bool := finding.category.severity?.isSome

structure IsFatal (finding : Finding) : Prop where
  shown : finding.isShown = true
  exceeds : wordValues 64 ≤ finding.start + finding.length

/-- The finding cut at the end of the document, its end being computed without bound. -/
def shownIn (doc : Document) (finding : Finding) : Diagnostic :=
  .ofSandbox (min finding.start doc.length) (min (finding.start + finding.length) doc.length)
    (if finding.isError then .error else .warning) finding.message

variable {finding : Finding} (doc : Document)

theorem shownIn_isError : (finding.shownIn doc).isError = finding.isError := by
  unfold shownIn Diagnostic.ofSandbox Diagnostic.isError
  cases finding.isError <;> rfl

theorem displayed?_of_hidden (hidden : finding.isShown = false) :
    finding.displayed? doc = some none := by
  rw [isShown, Option.isSome_eq_false_iff, Option.isNone_iff_eq_none] at hidden
  rw [displayed?, hidden]

theorem displayed?_of_fits (shown : finding.isShown = true)
    (fits : finding.start + finding.length < wordValues 64) :
    finding.displayed? doc = some (some (finding.shownIn doc)) := by
  have ordered : max (finding.start + finding.length) (min finding.start doc.length) =
      finding.start + finding.length := by
    omega
  unfold isShown at shown
  unfold displayed? shownIn isError
  rw [addWords?_of_fits fits]
  cases category : finding.category
  case error =>
    simp only [Category.severity?, Option.bind_eq_bind, Option.bind_some, ordered]
    rfl
  case warning =>
    simp only [Category.severity?, Option.bind_eq_bind, Option.bind_some, ordered]
    rfl
  all_goals
    rw [category] at shown
    cases shown

theorem displayed?_of_fatal (fatal : finding.IsFatal) : finding.displayed? doc = none := by
  obtain ⟨severity, displayed⟩ := Option.isSome_iff_exists.mp fatal.shown
  rw [displayed?, displayed, addWords?_of_exceeds fatal.exceeds]
  rfl

theorem displayed?_of_safe (safe : ¬ finding.IsFatal) :
    finding.displayed? doc =
      some (if finding.isShown then some (finding.shownIn doc) else none) := by
  cases shown : finding.isShown with
  | true =>
      have fits : finding.start + finding.length < wordValues 64 :=
        Nat.lt_of_not_le fun exceeds => safe ⟨shown, exceeds⟩
      rw [displayed?_of_fits doc shown fits, if_pos rfl]
  | false =>
      rw [displayed?_of_hidden doc shown]
      rfl

theorem displayed?_eq_none_iff : finding.displayed? doc = none ↔ finding.IsFatal := by
  refine ⟨fun died => ?_, displayed?_of_fatal doc⟩
  by_cases fatal : finding.IsFatal
  · exact fatal
  · rw [displayed?_of_safe doc fatal] at died
    cases died

/-! ## All findings of an analysis -/

def shownAll (doc : Document) (findings : List Finding) : List Diagnostic :=
  (findings.filter isShown).map (shownIn doc)

theorem filterMapM_displayed?_of_safe {findings : List Finding}
    (safe : ∀ finding ∈ findings, ¬ finding.IsFatal) :
    (findings.filterMapM fun finding => finding.displayed? doc) =
      some (shownAll doc findings) := by
  induction findings with
  | nil => rfl
  | cons finding rest ih =>
      have later := ih fun other among => safe other (List.mem_cons_of_mem _ among)
      rw [List.filterMapM_cons, displayed?_of_safe doc (safe finding List.mem_cons_self), later]
      by_cases shown : finding.isShown = true
      · rw [if_pos shown]
        show some (finding.shownIn doc :: shownAll doc rest) = _
        rw [shownAll, shownAll, List.filter_cons_of_pos shown, List.map_cons]
      · rw [if_neg shown]
        show some (shownAll doc rest) = _
        rw [shownAll, shownAll, List.filter_cons_of_neg shown]

theorem filterMapM_displayed?_of_fatal {findings : List Finding}
    (fatal : ∃ finding ∈ findings, finding.IsFatal) :
    (findings.filterMapM fun finding => finding.displayed? doc) = none := by
  induction findings with
  | nil =>
      obtain ⟨_, among, _⟩ := fatal
      cases among
  | cons finding rest ih =>
      rw [List.filterMapM_cons]
      by_cases here : finding.IsFatal
      · rw [displayed?_of_fatal doc here]
        rfl
      · have later : ∃ finding ∈ rest, finding.IsFatal := by
          obtain ⟨other, among, dies⟩ := fatal
          rcases List.mem_cons.mp among with rfl | among
          · exact absurd dies here
          · exact ⟨other, among, dies⟩
        rw [displayed?_of_safe doc here, ih later]
        cases finding.isShown <;> rfl

theorem any_isError_iff (findings : List Finding) :
    findings.any isError = true ↔
      ∃ diagnostic ∈ shownAll doc findings, diagnostic.severity = .error := by
  rw [List.any_eq_true]
  constructor
  · rintro ⟨finding, member, error⟩
    have category : finding.category = .error := beq_iff_eq.mp error
    have shown : finding.isShown = true := by
      rw [isShown, category]
      rfl
    refine ⟨_, List.mem_map_of_mem (List.mem_filter.mpr ⟨member, shown⟩), ?_⟩
    exact beq_iff_eq.mp ((shownIn_isError doc).trans error)
  · rintro ⟨_, displayed, severity⟩
    obtain ⟨finding, member, rfl⟩ := List.mem_map.mp displayed
    refine ⟨finding, (List.mem_filter.mp member).1, ?_⟩
    exact (shownIn_isError doc).symm.trans (beq_iff_eq.mpr severity)

end Finding

end StrategyDesk
