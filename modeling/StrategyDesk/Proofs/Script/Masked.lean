import StrategyDesk.Proofs.Script.Balance
import StrategyDesk.Proofs.Script.UniqueReading

/-!
# What masking leaves

A script is read in one way, so each of its characters belongs to a comment, to a literal, or to
neither. Masking keeps the length and the line feeds, turns the other characters of comments into
spaces, and changes nothing else. What it leaves is read as the script was, with single characters
in the place of each comment: it has the same literals and no comments, and masking it again
changes nothing.
-/

set_option autoImplicit false

namespace StrategyDesk.Script

namespace Lexeme

def isLiteral : Lexeme → Bool
  | literal _ _ | cutLiteral _ _ => true
  | _ => false

def remains (lexeme : Lexeme) : List Lexeme :=
  if lexeme.isComment then lexeme.masked.map other else [lexeme]

end Lexeme

/-- Whether a position is in the text of a lexeme that stands behind others. -/
structure Lexeme.Covers (before : List Lexeme) (lexeme : Lexeme) (position : Nat) : Prop where
  from_start : (textOf before).length ≤ position
  to_end : position < (textOf before).length + lexeme.text.length

/-- Whether the character at a position of a script belongs to a lexeme of a kind. -/
def IsWithin (kind : Lexeme → Bool) (script : Text) (position : Nat) : Prop :=
  ∃ before lexeme after, IsReading script (before ++ lexeme :: after) ∧
    Lexeme.Covers before lexeme position ∧ kind lexeme = true

def InComment : Text → Nat → Prop := IsWithin Lexeme.isComment

/-- Whether the character at a position belongs to a string literal, quotes included. -/
def InLiteral : Text → Nat → Prop := IsWithin Lexeme.isLiteral

theorem IsReading.unique {script : Text} {lexemes lexemes' : List Lexeme}
    (reading : IsReading script lexemes) (reading' : IsReading script lexemes') :
    lexemes = lexemes' :=
  readable_unique reading.2 reading'.2 (reading.1.trans reading'.1.symm)

namespace Lexeme

theorem not_comment_of_literal {lexeme : Lexeme} (literal : lexeme.isLiteral = true) :
    lexeme.isComment = false := by
  cases lexeme with
  | literal quote body | cutLiteral quote body => rfl
  | _ => cases literal

/-- Before and after masking, the text of a reading has the same first character, or it begins with
a comment. -/
theorem head?_maskedOf (lexemes : List Lexeme) :
    (maskedOf lexemes).head? = (textOf lexemes).head? ∨
      (textOf lexemes).head? = some '/' ∧ (maskedOf lexemes).head? = some ' ' := by
  cases lexemes with
  | nil => exact Or.inl rfl
  | cons lexeme rest =>
      rw [maskedOf_cons, textOf_cons]
      cases lexeme with
      | lineComment body | blockComment body | openComment body => exact Or.inr ⟨rfl, rfl⟩
      | _ => exact Or.inl rfl

theorem StandsBefore.masked {lexeme : Lexeme} {rest : List Lexeme}
    (stands : lexeme.StandsBefore (textOf rest)) (plain : lexeme.isComment = false) :
    lexeme.StandsBefore (maskedOf rest) := by
  rcases head?_maskedOf rest with same | ⟨slash, space⟩
  · exact stands.of_head? same
  · have filled : textOf rest ≠ [] := by
      intro empty
      rw [empty] at slash
      cases slash
    cases lexeme with
    | lineComment body | blockComment body | openComment body => cases plain
    | literal quote body => exact stands
    | cutLiteral quote body =>
        obtain ⟨opens, ⟨inside, breaks⟩ | ⟨ends, cut⟩⟩ := stands
        · cases newline_of_breaksLiteral (breaks '/' slash)
        · exact absurd ends filled
    | other c =>
        refine ⟨stands.1, ?_⟩
        intro _ d first
        rw [space] at first
        cases first
        decide

/-! ## The reading of a masked script -/

theorem textOf_remains (lexeme : Lexeme) : textOf lexeme.remains = lexeme.masked := by
  unfold remains
  split
  · exact textOf_others _
  next plain =>
    rw [masked_of_not_comment (Bool.eq_false_iff.mpr plain)]
    exact List.append_nil _

theorem textOf_flatMap_remains (lexemes : List Lexeme) :
    textOf (lexemes.flatMap remains) = maskedOf lexemes := by
  induction lexemes with
  | nil => rfl
  | cons lexeme rest ih =>
      rw [List.flatMap_cons, textOf_append, textOf_remains, ih, maskedOf_cons]

theorem masked_plain {lexeme : Lexeme} (comment : lexeme.isComment = true) :
    lexeme.masked.all (fun c => !isQuote c && c != '/') = true := by
  rw [masked_of_comment comment, List.all_map, List.all_eq_true]
  intro c _
  show (!isQuote (blankOut c) && blankOut c != '/') = true
  rcases blankOut_cases c with feed | space
  · rw [feed]
    rfl
  · rw [space]
    rfl

theorem readable_remains {lexemes : List Lexeme} (readable : Readable lexemes) :
    Readable (lexemes.flatMap remains) := by
  induction lexemes with
  | nil => trivial
  | cons lexeme rest ih =>
      obtain ⟨stands, later⟩ := readable
      rw [List.flatMap_cons, remains]
      split
      next comment => exact readable_others (masked_plain comment) (ih later)
      next plain =>
        have behind : lexeme.StandsBefore (textOf (rest.flatMap remains)) := by
          rw [textOf_flatMap_remains]
          exact stands.masked (Bool.eq_false_iff.mpr plain)
        exact ⟨behind, ih later⟩

theorem remains_of_not_comment {lexeme : Lexeme} (plain : lexeme.isComment = false) :
    lexeme.remains = [lexeme] := by
  rw [remains, plain, if_neg Bool.false_ne_true]

/-- Of what remains of a lexeme, only the lexeme itself can be a literal. -/
theorem eq_of_mem_remains {lexeme remaining : Lexeme} (left : remaining ∈ lexeme.remains)
    (literal : remaining.isLiteral = true) : remaining = lexeme := by
  unfold remains at left
  split at left
  · obtain ⟨c, _, rfl⟩ := List.mem_map.mp left
    cases literal
  · exact List.mem_singleton.mp left

theorem not_comment_of_mem_remains {lexeme remaining : Lexeme}
    (left : remaining ∈ lexeme.remains) : remaining.isComment = false := by
  unfold remains at left
  split at left
  · obtain ⟨c, _, rfl⟩ := List.mem_map.mp left
    rfl
  next plain =>
    rw [List.mem_singleton.mp left]
    exact Bool.eq_false_iff.mpr plain

end Lexeme

open Lexeme

theorem IsReading.mask_eq {script : Text} {lexemes : List Lexeme}
    (reading : IsReading script lexemes) : mask script = maskedOf lexemes := by
  rw [← reading.1, mask_textOf reading.2]

theorem IsReading.mask {script : Text} {lexemes : List Lexeme}
    (reading : IsReading script lexemes) :
    IsReading (mask script) (lexemes.flatMap remains) := by
  refine ⟨?_, readable_remains reading.2⟩
  rw [reading.mask_eq, textOf_flatMap_remains]

theorem IsReading.covers_lt {script : Text} {before after : List Lexeme} {lexeme : Lexeme}
    {position : Nat} (reading : IsReading script (before ++ lexeme :: after))
    (covers : Covers before lexeme position) : position < script.length := by
  have to_end := covers.to_end
  rw [← reading.1, textOf_append, textOf_cons, List.length_append, List.length_append]
  omega

/-! ## Character by character -/

theorem exists_lexeme_at {lexemes : List Lexeme} {position : Nat}
    (inside : position < (textOf lexemes).length) :
    ∃ before lexeme after, lexemes = before ++ lexeme :: after ∧
      Covers before lexeme position := by
  induction lexemes generalizing position with
  | nil => cases inside
  | cons first rest ih =>
      rw [textOf_cons, List.length_append] at inside
      by_cases here : position < first.text.length
      · refine ⟨[], first, rest, rfl, Nat.zero_le _, ?_⟩
        rw [show (textOf []).length = 0 from rfl, Nat.zero_add]
        exact here
      · have later : position - first.text.length < (textOf rest).length := by omega
        obtain ⟨before, lexeme, after, rfl, from_start, to_end⟩ := ih later
        refine ⟨first :: before, lexeme, after, rfl, ?_, ?_⟩ <;>
          rw [textOf_cons, List.length_append] <;> omega

theorem Lexeme.Covers.unique {before before' after after' : List Lexeme} {lexeme lexeme' : Lexeme}
    {position : Nat} (covers : Covers before lexeme position)
    (covers' : Covers before' lexeme' position)
    (same : before ++ lexeme :: after = before' ++ lexeme' :: after') : lexeme = lexeme' := by
  -- If one of them stood before the other, it would end before the position.
  have not_before {before between : List Lexeme} {lexeme lexeme' : Lexeme}
      (covers : Covers before lexeme position)
      (covers' : Covers (before ++ lexeme :: between) lexeme' position) : False := by
    have from_start := covers'.from_start
    have to_end := covers.to_end
    rw [textOf_append, textOf_cons, List.length_append, List.length_append] at from_start
    omega
  rcases List.append_eq_append_iff.mp same with ⟨between, rfl, tail⟩ | ⟨between, rfl, tail⟩
  · cases between with
    | nil => exact (List.cons.inj tail).1
    | cons first between =>
        obtain ⟨rfl, _⟩ := List.cons.inj tail
        exact (not_before covers covers').elim
  · cases between with
    | nil => exact (List.cons.inj tail).1.symm
    | cons first between =>
        obtain ⟨rfl, _⟩ := List.cons.inj tail
        exact (not_before covers' covers).elim

theorem getElem?_mask {script : Text} {before after : List Lexeme} {lexeme : Lexeme}
    {position : Nat} (reading : IsReading script (before ++ lexeme :: after))
    (covers : Covers before lexeme position) :
    (mask script)[position]? =
      if lexeme.isComment then script[position]?.map blankOut else script[position]? := by
  obtain ⟨from_start, to_end⟩ := covers
  have place {front own behind : Text} (same : front.length = (textOf before).length)
      (length : own.length = lexeme.text.length) :
      (front ++ (own ++ behind))[position]? = own[position - (textOf before).length]? := by
    rw [List.getElem?_append_right (by omega), same, List.getElem?_append_left (by omega)]
  have original : script[position]? = lexeme.text[position - (textOf before).length]? := by
    rw [← reading.1, textOf_append, textOf_cons]
    exact place rfl rfl
  have masked : (mask script)[position]? = lexeme.masked[position - (textOf before).length]? := by
    rw [reading.mask_eq, maskedOf_append, maskedOf_cons]
    exact place (maskedOf_length before) lexeme.masked_length
  rw [masked, original]
  split
  next comment => rw [masked_of_comment comment, List.getElem?_map]
  next plain => rw [masked_of_not_comment (Bool.eq_false_iff.mpr plain)]

theorem getElem?_mask_of_inComment {script : Text} {position : Nat}
    (inside : InComment script position) :
    ∃ c : Char, script[position]? = some c ∧
      (mask script)[position]? = some (if c = '\n' then '\n' else ' ') := by
  obtain ⟨before, lexeme, after, reading, covers, comment⟩ := inside
  have found := List.getElem?_eq_getElem (reading.covers_lt covers)
  have masked := getElem?_mask reading covers
  rw [if_pos comment, found, Option.map_some] at masked
  exact ⟨_, found, masked⟩

theorem getElem?_mask_of_not_inComment {script : Text} {position : Nat}
    (outside : ¬ InComment script position) : (mask script)[position]? = script[position]? := by
  by_cases inside : position < script.length
  · obtain ⟨lexemes, reading⟩ := exists_reading script
    rw [← reading.1] at inside
    obtain ⟨before, lexeme, after, rfl, covers⟩ := exists_lexeme_at inside
    have plain : lexeme.isComment ≠ true := fun comment =>
      outside ⟨before, lexeme, after, reading, covers, comment⟩
    rw [getElem?_mask reading covers, if_neg plain]
  · have beyond : script.length ≤ position := Nat.le_of_not_lt inside
    rw [List.getElem?_eq_none beyond, List.getElem?_eq_none (by rwa [mask_length])]

theorem not_inComment_of_inLiteral {script : Text} {position : Nat}
    (inside : InLiteral script position) : ¬ InComment script position := by
  obtain ⟨before, lexeme, after, reading, covers, literal⟩ := inside
  rintro ⟨before', lexeme', after', reading', covers', comment⟩
  obtain rfl := covers.unique covers' (reading.unique reading')
  rw [not_comment_of_literal literal] at comment
  cases comment

/-! ## Comments and literals of a masked script -/

theorem not_inComment_mask (script : Text) (position : Nat) :
    ¬ InComment (mask script) position := by
  rintro ⟨before, lexeme, after, reading, _, comment⟩
  obtain ⟨lexemes, original⟩ := exists_reading script
  have member : lexeme ∈ lexemes.flatMap remains := by
    rw [(IsReading.mask original).unique reading]
    exact List.mem_append_right _ List.mem_cons_self
  obtain ⟨source, _, left⟩ := List.mem_flatMap.mp member
  rw [not_comment_of_mem_remains left] at comment
  cases comment

theorem textOf_flatMap_remains_length (lexemes : List Lexeme) :
    (textOf (lexemes.flatMap remains)).length = (textOf lexemes).length := by
  rw [textOf_flatMap_remains, maskedOf_length]

theorem exists_remaining_at {before after : List Lexeme} {lexeme : Lexeme} {position : Nat}
    (covers : Covers before lexeme position) :
    ∃ first remaining last,
      (before ++ lexeme :: after).flatMap remains = first ++ remaining :: last ∧
        Covers first remaining position ∧ remaining ∈ lexeme.remains := by
  obtain ⟨from_start, to_end⟩ := covers
  have within : position - (textOf before).length < (textOf lexeme.remains).length := by
    rw [textOf_remains, masked_length]
    omega
  obtain ⟨first, remaining, last, split, own⟩ := exists_lexeme_at within
  refine ⟨before.flatMap remains ++ first, remaining, last ++ after.flatMap remains, ?_, ?_, ?_⟩
  · rw [List.flatMap_append, List.flatMap_cons, split]
    simp only [List.append_assoc, List.cons_append]
  · obtain ⟨own_start, own_end⟩ := own
    constructor <;>
      rw [textOf_append, List.length_append, textOf_flatMap_remains_length] <;> omega
  · rw [split]
    exact List.mem_append_right _ List.mem_cons_self

theorem inLiteral_mask_iff (script : Text) (position : Nat) :
    InLiteral (mask script) position ↔ InLiteral script position := by
  constructor
  · rintro ⟨before', lexeme', after', reading', covers', literal⟩
    obtain ⟨lexemes, reading⟩ := exists_reading script
    have inside : position < (textOf lexemes).length := by
      rw [reading.1, ← mask_length]
      exact reading'.covers_lt covers'
    obtain ⟨before, lexeme, after, rfl, covers⟩ := exists_lexeme_at inside
    obtain ⟨first, remaining, last, split, own, left⟩ := @exists_remaining_at _ after _ _ covers
    have same := reading'.unique (IsReading.mask reading)
    rw [split] at same
    obtain rfl := covers'.unique own same
    rw [eq_of_mem_remains left literal] at literal
    exact ⟨before, lexeme, after, reading, covers, literal⟩
  · rintro ⟨before, lexeme, after, reading, covers, literal⟩
    obtain ⟨first, remaining, last, split, own, left⟩ := @exists_remaining_at _ after _ _ covers
    have masked := IsReading.mask reading
    rw [split] at masked
    rw [remains_of_not_comment (not_comment_of_literal literal), List.mem_singleton] at left
    rw [left] at masked own
    exact ⟨first, lexeme, last, masked, own, literal⟩

/-! ## What masking does -/

/-- A masked script has no comments, so masking it again changes nothing. -/
theorem mask_mask (script : Text) : mask (mask script) = mask script :=
  List.ext_getElem? fun position =>
    getElem?_mask_of_not_inComment (not_inComment_mask script position)

/-- Every script is read in one way. Masking keeps its length and its line feeds, keeps each
character outside comments, those of literals among them, and turns each character of a comment
that is no line feed into a space. What it leaves has no comments and the literals of the script, so
masking it again changes nothing, and it has the same faults. -/
theorem mask_blanks_comments (script : Text) :
    (∃! lexemes, IsReading script lexemes) ∧
    (mask script).length = script.length ∧
    (∀ position : Nat, (mask script)[position]? = some '\n' ↔ script[position]? = some '\n') ∧
    (∀ position, ¬ InComment script position →
      (mask script)[position]? = script[position]?) ∧
    (∀ position, InLiteral script position →
      ¬ InComment script position ∧ (mask script)[position]? = script[position]?) ∧
    (∀ position, InComment script position → ∃ c : Char, script[position]? = some c ∧
      (mask script)[position]? = some (if c = '\n' then '\n' else ' ')) ∧
    (∀ position, ¬ InComment (mask script) position ∧
      (InLiteral (mask script) position ↔ InLiteral script position)) ∧
    mask (mask script) = mask script ∧
    faults (mask script) = faults script := by
  obtain ⟨lexemes, reading⟩ := exists_reading script
  have feeds (position : Nat) :
      (mask script)[position]? = some '\n' ↔ script[position]? = some '\n' := by
    by_cases inside : InComment script position
    · obtain ⟨c, found, masked⟩ := getElem?_mask_of_inComment inside
      rw [found, masked]
      by_cases feed : c = '\n' <;> simp [feed]
    · rw [getElem?_mask_of_not_inComment inside]
  refine ⟨⟨lexemes, reading, fun other also => also.unique reading⟩, mask_length script, feeds,
    fun position => getElem?_mask_of_not_inComment, fun position inside => ?_,
    fun position => getElem?_mask_of_inComment, fun position => ?_, mask_mask script, ?_⟩
  · have outside := not_inComment_of_inLiteral inside
    exact ⟨outside, getElem?_mask_of_not_inComment outside⟩
  · exact ⟨not_inComment_mask script position, inLiteral_mask_iff script position⟩
  · rw [faults, mask_mask, faults]

example : mask "a'//'/\u00e9/*\n*// /".toList = "a'//'/\u00e9  \n  / /".toList := by cbv

end StrategyDesk.Script
