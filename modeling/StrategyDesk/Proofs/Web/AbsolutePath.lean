import StrategyDesk.Web.Url
import StrategyDesk.Proofs.Script.Reading

/-!
# Absolute paths at an address

A path of words is read segment by segment, as it is written. At an address it takes the place of
the path that is there, with its query and fragment, unless that path is plain text. Only the drive
of a file stays in front of it.
-/

set_option autoImplicit false

namespace StrategyDesk.Web

/-! ## Words -/

/-- A word of letters, which has the same meaning in every part of an address. -/
def IsWord (word : Text) : Prop := word ≠ [] ∧ ∀ c ∈ word, c.isAlpha = true

instance (word : Text) : Decidable (IsWord word) :=
  decidable_of_iff (word.isEmpty = false ∧ word.all Char.isAlpha = true) (by simp [IsWord])

theorem ne_of_isAlpha {c other : Char} (letter : c.isAlpha = true)
    (sign : other.isAlpha = false) : c ≠ other := by
  rintro rfl
  rw [letter] at sign
  cases sign

theorem isPathSpecial_of_isAlpha {c : Char} (letter : c.isAlpha = true) :
    isPathSpecial c = false := by
  have range := Text.range_of_isAlpha letter
  have control : isControl c = false := by
    simp only [isControl, Bool.or_eq_false_iff, decide_eq_false_iff_not]
    omega
  simp [isPathSpecial, isFragmentSpecial, control, ne_of_isAlpha letter]

theorem isSlash_of_isAlpha {c : Char} (kind : SchemeKind) (letter : c.isAlpha = true) :
    kind.isSlash c = false := by
  simp [SchemeKind.isSlash, ne_of_isAlpha letter]

theorem escape_of_letters {word : Text} (letters : ∀ c ∈ word, c.isAlpha = true) :
    escape isPathSpecial word = word := by
  induction word with
  | nil => rfl
  | cons c rest ih =>
      have here := isPathSpecial_of_isAlpha (letters c List.mem_cons_self)
      have later := ih fun d inside => letters d (List.mem_cons_of_mem c inside)
      rw [escape, List.flatMap_cons, if_neg (by simp [here]), ← escape, later]
      rfl

theorem isDrive_of_letters {word : Text} (letters : ∀ c ∈ word, c.isAlpha = true) :
    isDrive word = false := by
  match word with
  | [] => rfl
  | [_] => rfl
  | [_, sign] =>
      have letter := letters sign (by simp)
      simp [isDrive, ne_of_isAlpha letter]
  | _ :: _ :: _ :: _ => rfl

theorem IsWord.plainDots_eq {word : Text} (isWord : IsWord word) : plainDots word = word := by
  obtain ⟨nonempty, letters⟩ := isWord
  obtain ⟨c, rest, rfl⟩ := List.exists_cons_of_ne_nil nonempty
  have letter := letters c List.mem_cons_self
  unfold plainDots
  split
  next first =>
    cases first
    exact absurd letter (by decide)
  next first =>
    cases first
    exact absurd letter (by decide)
  · rfl

theorem IsWord.not_dot {word : Text} (isWord : IsWord word) :
    isSingleDot word = false ∧ isDoubleDot word = false := by
  have nodot : '.' ∉ word := fun inside => absurd (isWord.2 '.' inside) (by decide)
  rw [isSingleDot, isDoubleDot, isWord.plainDots_eq]
  constructor
  · exact beq_false_of_ne fun equal => nodot (by simp [equal])
  · exact beq_false_of_ne fun equal => nodot (by simp [equal])

/-! ## Paths of words -/

theorem addSegment_of_isWord {kind : SchemeKind} {segments : List Text} {word : Text}
    (isWord : IsWord word) : addSegment kind segments word = segments ++ [word] := by
  simp [addSegment, isWord.not_dot, isDrive_of_letters isWord.2]

theorem addLastSegment_of_isWord {kind : SchemeKind} {segments : List Text} {word : Text}
    (isWord : IsWord word) : addLastSegment kind segments word = segments ++ [word] := by
  simp [addLastSegment, isWord.not_dot, addSegment_of_isWord isWord]

theorem foldl_addSegment {kind : SchemeKind} {start words : List Text}
    (areWords : ∀ word ∈ words, IsWord word) :
    words.foldl (addSegment kind) start = start ++ words := by
  induction words generalizing start with
  | nil => simp
  | cons word rest ih =>
      rw [List.foldl_cons, addSegment_of_isWord (areWords word List.mem_cons_self),
        ih fun other inside => areWords other (List.mem_cons_of_mem word inside)]
      simp

theorem splitAny_eq_splitOnP (separates : Char → Bool) (text : Text) :
    splitAny separates text = text.splitOnP separates := by
  induction text with
  | nil => rfl
  | cons c rest ih =>
      obtain ⟨part, parts, split⟩ :=
        List.exists_cons_of_ne_nil (List.splitOnP_ne_nil separates rest)
      rw [splitAny, List.splitOnP_cons_eq_if_modifyHead, ih, split]
      rfl

def pathOf (segments : List Text) : Text := List.intercalate ['/'] segments

theorem splitAny_pathOf {kind : SchemeKind} {words : List Text} (nonempty : words ≠ [])
    (areWords : ∀ word ∈ words, IsWord word) : splitAny kind.isSlash (pathOf words) = words := by
  rw [splitAny_eq_splitOnP]
  induction words with
  | nil => exact absurd rfl nonempty
  | cons word rest ih =>
      have letters : ∀ c ∈ word, kind.isSlash c = false := fun c inside =>
        isSlash_of_isAlpha kind ((areWords word List.mem_cons_self).2 c inside)
      cases rest with
      | nil =>
          rw [pathOf, List.intercalate_singleton]
          exact List.splitOnP_eq_singleton letters
      | cons next others =>
          have later := ih (List.cons_ne_nil next others) fun other inside =>
            areWords other (List.mem_cons_of_mem word inside)
          rw [pathOf, List.intercalate_cons_cons, List.append_assoc]
          rw [pathOf] at later
          exact (List.splitOnP_append_cons_of_forall_mem letters '/' rfl _).trans
            (congrArg (word :: ·) later)

theorem mem_pathOf {words : List Text} (areWords : ∀ word ∈ words, IsWord word) {c : Char}
    (inside : c ∈ pathOf words) : c = '/' ∨ c.isAlpha = true := by
  induction words with
  | nil => cases inside
  | cons word rest ih =>
      have letters := (areWords word List.mem_cons_self).2
      have later := ih fun other among => areWords other (List.mem_cons_of_mem word among)
      cases rest with
      | nil =>
          rw [pathOf, List.intercalate_singleton] at inside
          exact Or.inr (letters c inside)
      | cons next others =>
          rw [pathOf, List.intercalate_cons_cons, List.append_assoc] at inside
          rcases List.mem_append.mp inside with here | behind
          · exact Or.inr (letters c here)
          · rcases List.mem_cons.mp behind with slash | there
            · exact Or.inl slash
            · exact later there

theorem dropEmptyFront_of_head {segments : List Text} (front : segments.head? ≠ some []) :
    dropEmptyFront segments = segments := by
  unfold dropEmptyFront
  split
  · exact absurd rfl front
  · rfl

theorem extendPath_pathOf {kind : SchemeKind} {start words : List Text} (nonempty : words ≠ [])
    (areWords : ∀ word ∈ words, IsWord word) (front : (start ++ words).head? ≠ some []) :
    extendPath kind start (pathOf words) = start ++ words := by
  have kept : words.map (escape isPathSpecial) = words :=
    (List.map_congr_left fun word inside => escape_of_letters (areWords word inside).2).trans
      (List.map_id words)
  have whole : addLastSegment kind (words.dropLast.foldl (addSegment kind) start)
      (words.getLast?.getD []) = start ++ words := by
    rw [List.getLast?_eq_some_getLast nonempty, Option.getD_some,
      addLastSegment_of_isWord (areWords _ (List.getLast_mem nonempty)),
      foldl_addSegment fun word inside => areWords word (List.dropLast_subset words inside),
      List.append_assoc, List.dropLast_concat_getLast nonempty]
  simp only [extendPath]
  rw [splitAny_pathOf nonempty areWords, kept, whole, dropEmptyFront_of_head front, ite_self]

theorem spanUntil_of_forall {ends : Char → Bool} {text : Text}
    (absent : ∀ c ∈ text, ends c = false) : spanUntil ends text = (text, []) := by
  have all : ∀ c ∈ text, (!ends c) = true := fun c inside => by rw [absent c inside]; rfl
  rw [spanUntil, List.takeWhile_eq_self_iff.mpr all, List.dropWhile_eq_nil_iff.mpr all]

theorem splitTail_pathOf {kind : SchemeKind} {words : List Text}
    (areWords : ∀ word ∈ words, IsWord word) :
    splitTail kind (pathOf words) = (pathOf words, none, none) := by
  have absent : ∀ sign : Char, sign.isAlpha = false → sign ≠ '/' →
      spanUntil (· == sign) (pathOf words) = (pathOf words, []) := by
    intro sign other notSlash
    refine spanUntil_of_forall fun c inside => beq_false_of_ne ?_
    rcases mem_pathOf areWords inside with rfl | letter
    · exact notSlash.symm
    · exact ne_of_isAlpha letter other
  simp [splitTail, absent]

/-! ## An absolute path in the place of a path -/

def Url.drive (url : Url) : List Text :=
  match url.path with
  | .plain _ => []
  | .segments items =>
      if schemeKind url.scheme = .file ∧ isDrivePath (items.take 1) then items.take 1 else []

theorem eq_of_isDrivePath {segments : List Text} (isDrive : isDrivePath segments = true) :
    ∃ letter, segments = [[letter, ':']] := by
  unfold isDrivePath at isDrive
  split at isDrive
  next letter => exact ⟨letter, rfl⟩
  · cases isDrive

theorem Url.drive_cases (url : Url) :
    url.drive = [] ∨ ∃ letter, url.drive = [[letter, ':']] := by
  unfold Url.drive
  split
  · exact Or.inl rfl
  · split
    next hasDrive => exact Or.inr (eq_of_isDrivePath hasDrive.2)
    · exact Or.inl rfl

theorem isDrive_front {kind : SchemeKind} {words : List Text}
    (areWords : ∀ word ∈ words, IsWord word) :
    isDrive (spanUntil (endsAuthority kind) (pathOf words)).1 = false := by
  refine isDrive_of_letters fun c inside => ?_
  have inner := List.mem_takeWhile_imp inside
  rcases mem_pathOf areWords ((List.takeWhile_sublist _).mem inside) with rfl | letter
  · cases inner
  · exact letter

theorem Url.atPath_pathOf {url : Url} {items words : List Text} (path : url.path = .segments items)
    (nonempty : words ≠ []) (areWords : ∀ word ∈ words, IsWord word) :
    url.atPath (pathOf words) =
      .ok { url with path := .segments (url.drive ++ words), query := none, fragment := none } := by
  have front : (url.drive ++ words).head? ≠ some [] := by
    obtain ⟨word, rest, rfl⟩ := List.exists_cons_of_ne_nil nonempty
    rcases url.drive_cases with none | ⟨letter, one⟩
    · simp [none, (areWords word List.mem_cons_self).1]
    · simp [one]
  have drive : url.drive =
      if schemeKind url.scheme = .file ∧ isDrivePath (items.take 1) then items.take 1 else [] := by
    rw [Url.drive, path]
  simp only [Url.atPath, path, isDrive_front areWords, splitTail_pathOf areWords,
    Bool.false_eq_true, not_false_eq_true, and_true]
  rw [← drive, extendPath_pathOf nonempty areWords front]

end StrategyDesk.Web
