import Mathlib.Data.List.Induction
import StrategyDesk.Proofs.Script.Lexeme

/-!
# Masking in parts

What masking does with the rest of a text depends on the region that the front of it leaves open. A
comma neither opens nor closes a comment, so behind each comma the region is known: either a comment
goes on over it, or the comma is kept and what follows is read on its own.
-/

set_option autoImplicit false

namespace StrategyDesk.Script

/-- The regions in which masking keeps what it reads. -/
inductive Region.Keeps : Region → Prop where
  | code : Keeps .code
  | literal {quote : Char} (opens : isQuote quote = true) : Keeps (.literal quote)

/-- The regions in which it blanks what it reads. -/
inductive Region.Blanks : Region → Prop where
  | lineComment : Blanks .lineComment
  | blockComment : Blanks .blockComment

theorem maskFrom_nil (region : Region) : maskFrom region [] = [] := by cases region <;> rfl

/-- The first of two characters is masked alone, or both are, which in a comment happens to its
marks only. -/
theorem maskFrom_two {region : Region} (reached : region.Keeps ∨ region.Blanks) (c d : Char) :
    (∃ (m : Char) (next : Region), (next.Keeps ∨ next.Blanks) ∧
        ∀ rest, maskFrom region (c :: d :: rest) = m :: maskFrom next (d :: rest)) ∨
      ∃ (m m' : Char) (next : Region), (next.Keeps ∨ next.Blanks) ∧
        (d = '/' ∨ d = '*' ∨ next.Keeps ∧ m' = d) ∧
        ∀ rest, maskFrom region (c :: d :: rest) = m :: m' :: maskFrom next rest := by
  rcases reached with (_ | opens) | (_ | _)
  · by_cases line : c = '/' ∧ d = '/'
    · obtain ⟨rfl, rfl⟩ := line
      exact Or.inr ⟨' ', ' ', .lineComment, Or.inr .lineComment, Or.inl rfl, fun rest => rfl⟩
    by_cases block : c = '/' ∧ d = '*'
    · obtain ⟨rfl, rfl⟩ := block
      exact Or.inr ⟨' ', ' ', .blockComment, Or.inr .blockComment, Or.inr (Or.inl rfl),
        fun rest => rfl⟩
    refine Or.inl ⟨c, if isQuote c then .literal c else .code, ?_, fun rest => ?_⟩
    · split
      next opens => exact Or.inl (.literal opens)
      next => exact Or.inl .code
    · rw [maskFrom]
      · exact fun _ slash same => line ⟨slash, (List.cons.inj same).1⟩
      · exact fun _ slash same => block ⟨slash, (List.cons.inj same).1⟩
  · rename_i quote
    by_cases escape : c = '\\'
    · cases escape
      exact Or.inr ⟨'\\', d, .literal quote, Or.inl (.literal opens),
        Or.inr (Or.inr ⟨.literal opens, rfl⟩), fun rest => rfl⟩
    refine Or.inl ⟨c, if c == quote || breaksLiteral quote c then .code else .literal quote, ?_,
      fun rest => ?_⟩
    · split
      · exact Or.inl .code
      · exact Or.inl (.literal opens)
    · rw [maskFrom]
      exact fun _ _ backslash _ => escape backslash
  · refine Or.inl ⟨blankOut c, if c = '\n' then .code else .lineComment, ?_, fun rest => ?_⟩
    · split
      · exact Or.inl .code
      · exact Or.inr .lineComment
    · rw [maskFrom]
  · by_cases closes : c = '*' ∧ d = '/'
    · obtain ⟨rfl, rfl⟩ := closes
      exact Or.inr ⟨' ', ' ', .code, Or.inl .code, Or.inl rfl, fun rest => rfl⟩
    refine Or.inl ⟨blankOut c, .blockComment, Or.inr .blockComment, fun rest => ?_⟩
    rw [maskFrom]
    exact fun _ star same => closes ⟨star, (List.cons.inj same).1⟩

theorem maskFrom_idle {region : Region} (keeps : region.Keeps) {c : Char}
    (idle : isQuote c = false ∧ c ≠ '/' ∧ c ≠ '\\' ∧ c ≠ '\n') (rest : Text) :
    maskFrom region (c :: rest) = c :: maskFrom region rest := by
  obtain ⟨plain, no_slash, no_escape, no_feed⟩ := idle
  cases keeps with
  | code => exact maskFrom_other plain fun slash => absurd slash no_slash
  | @literal quote opens =>
      have differs : c ≠ quote := by
        rintro rfl
        rw [plain] at opens
        cases opens
      rw [maskFrom, if_neg (by simp [differs, breaksLiteral, no_feed])]
      exact fun _ _ escape _ => no_escape escape

theorem maskFrom_idles {region : Region} (keeps : region.Keeps) {text : Text}
    (idle : ∀ c ∈ text, isQuote c = false ∧ c ≠ '/' ∧ c ≠ '\\' ∧ c ≠ '\n') (rest : Text) :
    maskFrom region (text ++ rest) = text ++ maskFrom region rest := by
  induction text with
  | nil => rfl
  | cons c text ih =>
      rw [List.cons_append, maskFrom_idle keeps (idle c List.mem_cons_self),
        ih fun d inside => idle d (List.mem_cons_of_mem _ inside), List.cons_append]

/-- Without a slash nothing opens a comment, whatever literals are opened or broken off. -/
theorem maskFrom_slashless {region : Region} (keeps : region.Keeps) {text : Text}
    (slashless : '/' ∉ text) : maskFrom region text = text := by
  fun_induction maskFrom region text with
  | case1 => rfl
  | case2 | case3 => exact absurd List.mem_cons_self slashless
  | case4 c rest _ _ ih =>
      rw [ih _ fun inside => slashless (List.mem_cons_of_mem c inside)]
      split
      next opens => exact .literal opens
      next => exact .code
  | case5 | case6 | case7 => cases keeps
  | case8 quote c rest ih =>
      rw [ih keeps fun inside => slashless (by simp [inside])]
  | case9 quote c rest _ ih =>
      rw [ih _ fun inside => slashless (List.mem_cons_of_mem c inside)]
      split
      · exact .code
      · exact keeps

theorem maskFrom_blanked {region : Region} (blanks : region.Blanks) {c : Char} (no_feed : c ≠ '\n')
    (no_star : c ≠ '*') (rest : Text) :
    maskFrom region (c :: rest) = ' ' :: maskFrom region rest := by
  cases blanks with
  | lineComment => rw [maskFrom, blankOut, if_neg no_feed, if_neg no_feed]
  | blockComment =>
      rw [maskFrom, blankOut, if_neg no_feed]
      exact fun _ star _ => no_star star

theorem maskFrom_space {region : Region} (reached : region.Keeps ∨ region.Blanks) (rest : Text) :
    maskFrom region (' ' :: rest) = ' ' :: maskFrom region rest := by
  rcases reached with keeps | blanks
  · exact maskFrom_idle keeps (by decide) rest
  · exact maskFrom_blanked blanks (by decide) (by decide) rest

/-- Whether a text and a comma are masked so from a region on, and what follows from another one on:
a comment goes on over the comma, or the comma is kept. -/
inductive ReachesComma (region : Region) (text masked : Text) (after : Region) : Prop where
  | blanked (blanks : after.Blanks) (split : ∀ rest, maskFrom region (text ++ ',' :: rest) =
      masked ++ ' ' :: maskFrom after rest)
  | kept (keeps : after.Keeps) (split : ∀ rest, maskFrom region (text ++ ',' :: rest) =
      masked ++ ',' :: maskFrom after rest)

theorem ReachesComma.onward {region next after : Region} {front text masked masked' : Text}
    (reaches : ReachesComma next text masked' after)
    (taken : ∀ rest, maskFrom region (front ++ (text ++ ',' :: rest)) =
      masked ++ maskFrom next (text ++ ',' :: rest)) :
    ReachesComma region (front ++ text) (masked ++ masked') after := by
  have both {masked'' : Text → Text} (split : ∀ rest, maskFrom next (text ++ ',' :: rest) =
      masked' ++ masked'' rest) (rest : Text) :
      maskFrom region (front ++ text ++ ',' :: rest) = masked ++ masked' ++ masked'' rest := by
    rw [List.append_assoc, taken, split, List.append_assoc]
  cases reaches with
  | blanked blanks split => exact .blanked blanks (both split)
  | kept keeps split => exact .kept keeps (both split)

theorem Region.Keeps.reachesComma {region : Region} (keeps : region.Keeps) :
    ReachesComma region [] [] region :=
  .kept keeps (maskFrom_idle keeps (by decide))

theorem Region.Blanks.reachesComma {region : Region} (blanks : region.Blanks) :
    ReachesComma region [] [] region :=
  .blanked blanks (maskFrom_blanked blanks (by decide) (by decide))

theorem exists_reachesComma {region : Region} (reached : region.Keeps ∨ region.Blanks)
    (text : Text) : ∃ masked after, ReachesComma region text masked after := by
  have at_once {region : Region} (reached : region.Keeps ∨ region.Blanks) :
      ReachesComma region [] [] region :=
    reached.elim Region.Keeps.reachesComma Region.Blanks.reachesComma
  induction text using List.twoStepInduction generalizing region with
  | nil => exact ⟨[], region, at_once reached⟩
  | singleton c =>
      -- The comma itself can be taken together with the character before it.
      rcases maskFrom_two reached c ',' with ⟨m, next, reached', taken⟩ |
        ⟨m, m', next, _, slash | star | ⟨keeps, rfl⟩, taken⟩
      · exact ⟨[m], next, @(at_once reached').onward _ _ _ [c] _ [m] _ taken⟩
      · cases slash
      · cases star
      · exact ⟨[m], next, .kept keeps taken⟩
  | cons_cons c d text ih ih' =>
      rcases maskFrom_two reached c d with ⟨m, next, reached', taken⟩ |
        ⟨m, m', next, reached', _, taken⟩
      · obtain ⟨masked, after, reaches⟩ := ih' d reached'
        exact ⟨m :: masked, after, @reaches.onward _ _ _ [c] _ [m] _ fun rest => taken _⟩
      · obtain ⟨masked, after, reaches⟩ := ih reached'
        exact ⟨m :: m' :: masked, after,
          @reaches.onward _ _ _ [c, d] _ [m, m'] _ fun rest => taken _⟩

end StrategyDesk.Script
