import StrategyDesk.Proofs.Document.Lookup

/-!
# The walk to the line of a fault

An offset of 64 bits leads to a position in the buffer without a word overflowing. From the line of
that position the walk goes up while lines are empty. It ends at the greatest line with content up
to there, or at the first line; so a later offset never leads to an earlier line.
-/

set_option autoImplicit false

namespace StrategyDesk

namespace Buffer

variable {buffer : Buffer} {line target : Line}

/-! ## The position of an offset -/

theorem toInt_signedWord (number : Nat) :
    (signedWord number).toInt = min (number : Int) Int64.maxValue.toInt := by
  have largest : Int64.maxValue.toNatClampNeg = 2 ^ 63 - 1 := by decide
  rw [signedWord, largest, Int64.toInt_maxValue]
  split
  next fits =>
    rw [Int64.toInt_ofNat_of_lt (by omega)]
    omega
  next exceeds =>
    rw [Int64.toInt_maxValue]
    omega

theorem toInt_previous {offset : Int64} (above : offset ≠ .minValue) :
    (offset - 1).toInt = offset.toInt - 1 := by
  have least : offset.toInt ≠ -2 ^ 63 := by
    rw [← Int64.toInt_minValue]
    exact mt Int64.toInt_inj.mp above
  have low := offset.le_toInt
  have high := offset.toInt_lt
  rw [Int64.toInt_sub, Int64.toInt_one]
  exact Int.bmod_eq_of_le (by omega) (by omega)

theorem positionOf_eq (buffer : Buffer) (offset : Int64) :
    (buffer.positionOf offset : Int) = max 0 (min (offset.toInt - 1) buffer.length) := by
  have last := toInt_signedWord buffer.length
  have high := offset.toInt_lt
  rw [Int64.toInt_maxValue] at last
  unfold positionOf
  by_cases least : offset = .minValue
  · simp only [least, if_pos, Int64.lt_iff_toInt_lt, Int64.toInt_minValue, Int64.toInt_zero]
    rw [if_pos (by decide), Int64.toInt_zero]
    omega
  · have before := toInt_previous least
    simp only [if_neg least, Int64.lt_iff_toInt_lt, before, Int64.toInt_zero]
    split
    · rw [Int64.toInt_zero]
      omega
    · split
      · omega
      · rw [before]
        omega

theorem positionOf_mono (buffer : Buffer) {first second : Int64} (ordered : first ≤ second) :
    buffer.positionOf first ≤ buffer.positionOf second := by
  have least := buffer.positionOf_eq first
  have greatest := buffer.positionOf_eq second
  have bounds := Int64.le_iff_toInt_le.mp ordered
  omega

/-! ## The walk -/

theorem line?_number {number : Nat} (found : buffer.line? number = some line) :
    buffer.line? line.number = some line := by
  rw [number_of_line? found, found]

/-- Where a walk up from `line` may end: all lines passed on the way are empty, and an empty line
ends it only if it is the first. -/
structure Ends (buffer : Buffer) (line target : Line) : Prop where
  known : buffer.line? target.number = some target
  above : target.number ≤ line.number
  passed : ∀ other, buffer.line? other.number = some other → target.number < other.number →
    other.number ≤ line.number → other.isEmpty
  first : target.isEmpty → target.number = 1

theorem Tiled.positive (tiled : buffer.Tiled) (known : buffer.line? line.number = some line) :
    1 ≤ line.number :=
  ((tiled.present line.number).mp (Option.isSome_of_eq_some known)).1

theorem Tiled.walkUp_ends (tiled : buffer.Tiled) (known : buffer.line? line.number = some line) :
    buffer.Ends line (buffer.walkUp line) := by
  have inside := (tiled.present line.number).mp (Option.isSome_of_eq_some known)
  fun_induction buffer.walkUp line with
  | case1 line stepping previous found ih =>
      have numbered := number_of_line? found
      have walked := ih (line?_number found) (by omega)
      refine ⟨walked.known, by have := walked.above; omega, ?_, walked.first⟩
      intro other there below within
      by_cases here : other.number = line.number
      · rw [here, known] at there
        cases there
        exact stepping.1
      · exact walked.passed other there below (by omega)
  | case2 line stepping missing =>
      have present := (tiled.present (line.number - 1)).mpr (by omega)
      rw [missing] at present
      cases present
  | case3 line resting =>
      refine ⟨known, Nat.le_refl _, fun other _ below within => by omega, fun empty => ?_⟩
      have top_line : ¬ line.number > 1 := fun above => resting ⟨empty, above⟩
      omega

theorem Ends.mono {later goal : Line} (tiled : buffer.Tiled) (first : buffer.Ends line target)
    (second : buffer.Ends later goal) (ordered : line.number ≤ later.number) :
    target.number ≤ goal.number := by
  by_contra before
  have reach := first.above
  have empty := second.passed target first.known (by omega) (by omega)
  have top := first.first empty
  have positive := tiled.positive second.known
  omega

/-- The end of the walk is the greatest line with content. -/
theorem Ends.greatest {other : Line} (walked : buffer.Ends line target)
    (known : buffer.line? other.number = some other) (filled : ¬ other.isEmpty)
    (within : other.number ≤ line.number) : other.number ≤ target.number := by
  by_contra beyond
  exact filled (walked.passed other known (by omega) within)

theorem Ends.isEmpty_iff (tiled : buffer.Tiled) (walked : buffer.Ends line target) :
    target.isEmpty ↔ ∀ other, buffer.line? other.number = some other →
      other.number ≤ line.number → other.isEmpty := by
  refine ⟨fun empty other known within => ?_, fun all => all target walked.known walked.above⟩
  have top := walked.first empty
  have positive := tiled.positive known
  by_cases here : other.number = target.number
  · rw [here, walked.known] at known
    cases known
    exact empty
  · exact walked.passed other known (by omega) within

end Buffer

/-! ## The walk and the document -/

namespace Document

variable {doc : Document} {line : Line} {place : Nat}

theorem take_lines_succ (found : doc.line? (place + 1) = some line) :
    doc.lines.take (place + 1) = doc.lines.take place ++ [line] := by
  rw [List.take_add_one, show doc.lines[place]? = some line from found]
  rfl

theorem contentLine_of_filled (found : doc.line? (place + 1) = some line)
    (filled : ¬ line.isEmpty) : doc.contentLine (place + 1) = line := by
  rw [contentLine, take_lines_succ found, List.filter_append,
    List.filter_cons_of_pos (by simpa using filled), List.filter_nil, List.getLast?_concat]
  rfl

theorem contentLine_of_empty (found : doc.line? (place + 1) = some line)
    (empty : line.isEmpty) : doc.contentLine (place + 1) = doc.contentLine place := by
  rw [contentLine, take_lines_succ found, List.filter_append, List.filter_cons_of_neg (by simpa),
    List.filter_nil, List.append_nil]
  rfl

theorem contentLine_zero (found : doc.line? 1 = some line) : doc.contentLine 0 = line := by
  rw [contentLine, List.take_zero, List.filter_nil, List.head?_eq_getElem?,
    show doc.lines[0]? = some line from found]
  rfl

end Document

namespace Buffer

variable {buffer : Buffer} {line : Line}

theorem InStep.walkUp (fresh : buffer.InStep) (known : buffer.line? line.number = some line) :
    buffer.walkUp line = buffer.document.contentLine line.number := by
  have inside := (fresh.tiled.present line.number).mp (Option.isSome_of_eq_some known)
  fun_induction buffer.walkUp line with
  | case1 line stepping previous found ih =>
      have numbered := number_of_line? found
      rw [fresh.line?] at known
      rw [ih (line?_number found) (by omega), numbered]
      obtain ⟨place, counted⟩ := Nat.exists_eq_add_of_le' inside.1
      rw [counted] at known ⊢
      exact (Document.contentLine_of_empty known stepping.1).symm
  | case2 line stepping missing =>
      have present := (fresh.tiled.present (line.number - 1)).mpr (by omega)
      rw [missing] at present
      cases present
  | case3 line resting =>
      obtain ⟨place, counted⟩ := Nat.exists_eq_add_of_le' inside.1
      rw [fresh.line?, counted] at known
      rw [counted] at resting ⊢
      by_cases empty : line.isEmpty
      · have top : place = 0 := by
          by_contra above
          exact resting ⟨empty, by omega⟩
        rw [Document.contentLine_of_empty known empty, top]
        rw [top] at known
        exact (Document.contentLine_zero known).symm
      · exact (Document.contentLine_of_filled known empty).symm

theorem InStep.faultLine (fresh : buffer.InStep) (offset : Int64) :
    buffer.faultLine offset = buffer.document.faultLine offset.toInt := by
  have placed : buffer.positionOf offset = buffer.document.positionOf offset.toInt := by
    have computed := buffer.positionOf_eq offset
    have length := fresh.length
    unfold Document.positionOf
    omega
  obtain ⟨looked, same⟩ := fresh.lineAt (buffer.positionOf offset)
  rw [Buffer.faultLine, fresh.walkUp (line?_number looked), same, placed]
  rfl

/-- In a buffer over a text, after any changes, an offset is clamped into the text and leads to the
line there, or from an empty line up to the last one with content. It leads to an empty line, the
first, exactly if all lines up to there are empty. Later offsets lead to no earlier lines. -/
theorem faultLine_walks (text : String) (changes : List Change) :
    ∃ buffer, (ofText text).applyAll changes = some buffer ∧
      (∀ offset : Int64,
        let held := buffer.lineAt (buffer.positionOf offset)
        (buffer.positionOf offset : Int) = max 0 (min (offset.toInt - 1) buffer.length) ∧
        ∃ line, buffer.line? line.number = some line ∧
          buffer.faultLine offset = ⟨line.number, line.start, line.stop⟩ ∧
          (¬ held.isEmpty → line = held) ∧
          (held.isEmpty → ¬ line.isEmpty → line.number < held.number) ∧
          (∀ other, buffer.line? other.number = some other → ¬ other.isEmpty →
            other.number ≤ held.number → other.number ≤ line.number) ∧
          (line.isEmpty ↔ ∀ other, buffer.line? other.number = some other →
            other.number ≤ held.number → other.isEmpty) ∧
          (line.isEmpty → line.number = 1)) ∧
      (∀ first second : Int64, first ≤ second →
        (buffer.faultLine first).line ≤ (buffer.faultLine second).line) ∧
      ∀ offset, buffer.faultLine offset =
        (Document.applyAll ⟨text.toList⟩ changes).faultLine offset.toInt := by
  obtain ⟨buffer, carried, fresh, edited⟩ := exists_applyAll text changes
  have tiled := fresh.tiled
  have known (position : Nat) :
      buffer.line? (buffer.lineAt position).number = some (buffer.lineAt position) :=
    line?_number (tiled.found position)
  refine ⟨buffer, carried, fun offset => ?_, fun first second ordered => ?_, fun offset => ?_⟩
  · have walked := tiled.walkUp_ends (known (buffer.positionOf offset))
    refine ⟨buffer.positionOf_eq offset, _, walked.known, rfl, fun filled => ?_,
      fun empty content => ?_,
      fun other there content within => walked.greatest there content within,
      walked.isEmpty_iff tiled, walked.first⟩
    · rw [walkUp, if_neg (fun stepping => filled stepping.1)]
    · refine Nat.lt_of_le_of_ne walked.above fun same => content ?_
      have target := walked.known
      rw [same, known] at target
      rw [← Option.some.inj target]
      exact empty
  · refine (tiled.walkUp_ends (known _)).mono tiled (tiled.walkUp_ends (known _)) ?_
    exact tiled.monotone _ _ (buffer.positionOf_mono ordered)
  · rw [fresh.faultLine, edited]

example : (ofText "a\n\n\nb").faultLine 4 = ⟨1, 0, 1⟩ := by cbv

end Buffer

end StrategyDesk
