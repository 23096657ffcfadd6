import Mathlib.Data.List.TakeWhile
import StrategyDesk.Script.Masking

/-!
# Lexemes of a script

A script is read in lexemes: comments, string literals, and single other characters. Where a lexeme
ends is said by rules about the lexeme and what follows it. Every script has such a reading, and
masking blanks out its comments and leaves its other lexemes alone.
-/

set_option autoImplicit false

namespace StrategyDesk.Script

/-- What stands between the quotes of a literal: backslashes, each with the character after it, and
characters that do not end the literal. -/
inductive LiteralBody (quote : Char) : Text → Prop where
  | nil : LiteralBody quote []
  | escape (c : Char) {rest : Text} (later : LiteralBody quote rest) :
      LiteralBody quote ('\\' :: c :: rest)
  | plain {c : Char} {rest : Text} (bare : c ≠ '\\') (inside : c ≠ quote)
      (unbroken : breaksLiteral quote c = false) (later : LiteralBody quote rest) :
      LiteralBody quote (c :: rest)

theorem literalBody_of_plain {quote : Char} {body : Text}
    (plain : ∀ c ∈ body, c ≠ '\\' ∧ c ≠ quote ∧ c ≠ '\n') : LiteralBody quote body := by
  induction body with
  | nil => exact .nil
  | cons c rest ih =>
      obtain ⟨bare, inside, same_line⟩ := plain c List.mem_cons_self
      refine .plain bare inside ?_ (ih fun d later => plain d (List.mem_cons_of_mem _ later))
      simp [breaksLiteral, same_line]

inductive Lexeme where
  | lineComment (body : Text)
  | blockComment (body : Text)
  | openComment (body : Text)
  | literal (quote : Char) (body : Text)
  /-- A literal that is not closed where its line or the script ends. -/
  | cutLiteral (quote : Char) (body : Text)
  | other (c : Char)

namespace Lexeme

def text : Lexeme → Text
  | lineComment body => '/' :: '/' :: body
  | blockComment body => '/' :: '*' :: (body ++ ['*', '/'])
  | openComment body => '/' :: '*' :: body
  | literal quote body => quote :: (body ++ [quote])
  | cutLiteral quote body => quote :: body
  | other c => [c]

def isComment : Lexeme → Bool
  | lineComment _ | blockComment _ | openComment _ => true
  | _ => false

def masked : Lexeme → Text
  | lineComment body => (lineComment body).text.map blankOut
  | blockComment body => (blockComment body).text.map blankOut
  | openComment body => (openComment body).text.map blankOut
  | lexeme => lexeme.text

/-- Whether the lexeme is read as such, and ends there, when this text follows it. -/
def StandsBefore (rest : Text) : Lexeme → Prop
  | lineComment body => '\n' ∉ body ∧ ∀ c ∈ rest.head?, c = '\n'
  | blockComment body => ¬ ['*', '/'] <:+: body ++ ['*']
  | openComment body => ¬ ['*', '/'] <:+: body ∧ rest = []
  | literal quote body => isQuote quote = true ∧ LiteralBody quote body
  | cutLiteral quote body =>
      isQuote quote = true ∧
        ((LiteralBody quote body ∧ ∀ c ∈ rest.head?, breaksLiteral quote c = true) ∨
          (rest = [] ∧ ∃ start, body = start ++ ['\\'] ∧ LiteralBody quote start))
  | other c => isQuote c = false ∧ (c = '/' → ∀ d ∈ rest.head?, d ≠ '/' ∧ d ≠ '*')

def textOf (lexemes : List Lexeme) : Text := lexemes.flatMap text

def maskedOf (lexemes : List Lexeme) : Text := lexemes.flatMap masked

/-- Whether lexemes are a reading of their text: each is read where it stands. -/
def Readable : List Lexeme → Prop
  | [] => True
  | lexeme :: rest => lexeme.StandsBefore (textOf rest) ∧ Readable rest

theorem textOf_cons (lexeme : Lexeme) (rest : List Lexeme) :
    textOf (lexeme :: rest) = lexeme.text ++ textOf rest := List.flatMap_cons

theorem textOf_append (first second : List Lexeme) :
    textOf (first ++ second) = textOf first ++ textOf second := List.flatMap_append

theorem maskedOf_cons (lexeme : Lexeme) (rest : List Lexeme) :
    maskedOf (lexeme :: rest) = lexeme.masked ++ maskedOf rest := List.flatMap_cons

theorem maskedOf_append (first second : List Lexeme) :
    maskedOf (first ++ second) = maskedOf first ++ maskedOf second := List.flatMap_append

theorem stands_of_readable {before : List Lexeme} {lexeme : Lexeme} {after : List Lexeme}
    (readable : Readable (before ++ lexeme :: after)) : lexeme.StandsBefore (textOf after) := by
  induction before with
  | nil => exact readable.1
  | cons first before ih => exact ih readable.2

theorem text_pos (lexeme : Lexeme) : 0 < lexeme.text.length := by
  cases lexeme <;> simp [text]

theorem masked_length (lexeme : Lexeme) : lexeme.masked.length = lexeme.text.length := by
  cases lexeme <;> simp [masked, text]

theorem masked_of_comment {lexeme : Lexeme} (comment : lexeme.isComment = true) :
    lexeme.masked = lexeme.text.map blankOut := by
  cases lexeme with
  | lineComment body | blockComment body | openComment body => rfl
  | _ => cases comment

theorem masked_of_not_comment {lexeme : Lexeme} (plain : lexeme.isComment = false) :
    lexeme.masked = lexeme.text := by
  cases lexeme with
  | lineComment body | blockComment body | openComment body => cases plain
  | _ => rfl

theorem maskedOf_length (lexemes : List Lexeme) :
    (maskedOf lexemes).length = (textOf lexemes).length := by
  induction lexemes with
  | nil => rfl
  | cons lexeme rest ih =>
      rw [maskedOf_cons, textOf_cons, List.length_append, List.length_append, masked_length, ih]

theorem StandsBefore.of_head? {lexeme : Lexeme} {rest other : Text}
    (stands : lexeme.StandsBefore rest) (same : other.head? = rest.head?) :
    lexeme.StandsBefore other := by
  have ends (done : rest = []) : other = [] := by
    rw [done] at same
    exact List.head?_eq_none_iff.mp same
  cases lexeme with
  | lineComment body => exact ⟨stands.1, by rw [same]; exact stands.2⟩
  | blockComment body => exact stands
  | openComment body => exact ⟨stands.1, ends stands.2⟩
  | literal quote body => exact stands
  | cutLiteral quote body =>
      obtain ⟨opens, ⟨inside, breaks⟩ | ⟨done, cut⟩⟩ := stands
      · exact ⟨opens, Or.inl ⟨inside, by rw [same]; exact breaks⟩⟩
      · exact ⟨opens, Or.inr ⟨ends done, cut⟩⟩
  | other c => exact ⟨stands.1, by rw [same]; exact stands.2⟩

theorem head?_textOf_cons (lexeme : Lexeme) (rest : List Lexeme) :
    (textOf (lexeme :: rest)).head? = lexeme.text.head? := by
  rw [textOf_cons, List.head?_append]
  cases first : lexeme.text with
  | nil =>
      have filled := lexeme.text_pos
      rw [first] at filled
      cases filled
  | cons c later => rfl

theorem textOf_others (text : Text) : textOf (text.map other) = text := by
  rw [textOf, List.flatMap_map]
  exact List.flatMap_singleton' text

theorem readable_others {text : Text} {rest : List Lexeme}
    (plain : text.all (fun c => !isQuote c && c != '/') = true) (readable : Readable rest) :
    Readable (text.map other ++ rest) := by
  induction text with
  | nil => exact readable
  | cons c text ih =>
      simp only [List.all_cons, Bool.and_eq_true, Bool.not_eq_true', bne_iff_ne] at plain
      obtain ⟨⟨bare, no_slash⟩, later⟩ := plain
      refine ⟨⟨bare, ?_⟩, ih later⟩
      intro slash
      exact absurd slash no_slash

theorem readable_replace {before after : List Lexeme} {quote : Char} {body other : Text}
    (readable : Readable (before ++ literal quote body :: after))
    (inside : LiteralBody quote other) : Readable (before ++ literal quote other :: after) := by
  induction before with
  | nil => exact ⟨⟨readable.1.1, inside⟩, readable.2⟩
  | cons first before ih =>
      have same : (textOf (before ++ literal quote other :: after)).head? =
          (textOf (before ++ literal quote body :: after)).head? := by
        cases before with
        | nil =>
            rw [List.nil_append, List.nil_append, head?_textOf_cons, head?_textOf_cons]
            rfl
        | cons second before =>
            rw [List.cons_append, List.cons_append, head?_textOf_cons, head?_textOf_cons]
      obtain ⟨stands, later⟩ := readable
      exact ⟨stands.of_head? same, ih later⟩

end Lexeme

/-! ## Masking, lexeme by lexeme -/

theorem blankOut_cases (c : Char) : blankOut c = '\n' ∨ blankOut c = ' ' := by
  unfold blankOut
  split
  · exact Or.inl rfl
  · exact Or.inr rfl

theorem maskFrom_lineComment {body rest : Text} (whole : '\n' ∉ body)
    (ends : ∀ c ∈ rest.head?, c = '\n') :
    maskFrom .lineComment (body ++ rest) = body.map blankOut ++ maskFrom .code rest := by
  induction body with
  | nil =>
      cases rest with
      | nil => simp [maskFrom]
      | cons c rest =>
          rw [ends c rfl]
          simp [maskFrom, blankOut, isQuote]
  | cons c body ih =>
      have other : c ≠ '\n' := fun feed => whole (feed ▸ List.mem_cons_self)
      have onward := ih fun inside => whole (List.mem_cons_of_mem _ inside)
      simp only [List.cons_append, maskFrom, if_neg other, onward, List.map_cons]

example : mask "a // b\nc".toList = "a     \nc".toList := by cbv

theorem not_slash_of_unclosed {c : Char} {body : Text} (unclosed : ¬ ['*', '/'] <:+: c :: body) :
    ∀ rest, c = '*' → body = '/' :: rest → False := by
  intro rest star slash
  rw [star, slash] at unclosed
  exact unclosed ⟨[], rest, rfl⟩

theorem maskFrom_blockComment {body rest : Text} (unclosed : ¬ ['*', '/'] <:+: body ++ ['*']) :
    maskFrom .blockComment (body ++ '*' :: '/' :: rest) =
      body.map blankOut ++ ' ' :: ' ' :: maskFrom .code rest := by
  induction body with
  | nil => simp [maskFrom]
  | cons c body ih =>
      rw [List.cons_append, maskFrom, ih fun inside => unclosed (List.infix_cons inside)]
      · rfl
      · intro later star slash
        cases body with
        | nil => cases (List.cons.inj slash).1
        | cons d body =>
            obtain ⟨rfl, _⟩ := List.cons.inj slash
            exact not_slash_of_unclosed unclosed (body ++ ['*']) star rfl

theorem maskFrom_openComment {body : Text} (unclosed : ¬ ['*', '/'] <:+: body) :
    maskFrom .blockComment body = body.map blankOut := by
  induction body with
  | nil => rfl
  | cons c body ih =>
      rw [maskFrom, ih fun inside => unclosed (List.infix_cons inside)]
      · rfl
      · exact not_slash_of_unclosed unclosed

theorem maskFrom_literal {quote : Char} {body : Text} (inside : LiteralBody quote body)
    (rest : Text) :
    maskFrom (.literal quote) (body ++ rest) = body ++ maskFrom (.literal quote) rest := by
  induction inside with
  | nil => rfl
  | escape c later ih => simp only [List.cons_append, maskFrom, ih]
  | @plain c body bare inside unbroken later ih =>
      have goes_on : (c == quote || breaksLiteral quote c) = false := by
        simp [inside, unbroken]
      rw [List.cons_append, maskFrom, goes_on, if_neg Bool.false_ne_true, ih, List.cons_append]
      intro d rest same
      exact absurd same bare

theorem newline_of_breaksLiteral {quote c : Char} (breaks : breaksLiteral quote c = true) :
    c = '\n' := by
  simp only [breaksLiteral, Bool.and_eq_true, beq_iff_eq] at breaks
  exact breaks.1

theorem maskFrom_broken {quote : Char} {rest : Text}
    (breaks : ∀ c ∈ rest.head?, breaksLiteral quote c = true) :
    maskFrom (.literal quote) rest = maskFrom .code rest := by
  cases rest with
  | nil => rfl
  | cons c rest =>
      have broken := breaks c rfl
      cases newline_of_breaksLiteral broken
      simp [maskFrom, broken, isQuote]

theorem maskFrom_other {c : Char} {rest : Text} (plain : isQuote c = false)
    (alone : c = '/' → ∀ d ∈ rest.head?, d ≠ '/' ∧ d ≠ '*') :
    maskFrom .code (c :: rest) = c :: maskFrom .code rest := by
  rw [maskFrom, plain, if_neg Bool.false_ne_true]
  · intro later slash same
    exact (alone slash '/' (by rw [same]; rfl)).1 rfl
  · intro later slash same
    exact (alone slash '*' (by rw [same]; rfl)).2 rfl

theorem maskFrom_quote {quote : Char} (opens : isQuote quote = true) (rest : Text) :
    maskFrom .code (quote :: rest) = quote :: maskFrom (.literal quote) rest := by
  have no_slash : quote ≠ '/' := by
    intro slash
    rw [slash] at opens
    cases opens
  rw [maskFrom, opens, if_pos rfl]
  · exact fun _ slash _ => no_slash slash
  · exact fun _ slash _ => no_slash slash

theorem isQuote_ne_backslash {quote : Char} (opens : isQuote quote = true) : quote ≠ '\\' := by
  intro backslash
  rw [backslash] at opens
  cases opens

theorem maskFrom_lexeme {lexeme : Lexeme} {rest : Text} (stands : lexeme.StandsBefore rest) :
    maskFrom .code (lexeme.text ++ rest) = lexeme.masked ++ maskFrom .code rest := by
  cases lexeme with
  | lineComment body =>
      obtain ⟨whole, ends⟩ := stands
      simp only [Lexeme.text, Lexeme.masked, List.cons_append, List.map_cons, maskFrom,
        maskFrom_lineComment whole ends]
      rfl
  | blockComment body =>
      simp only [Lexeme.text, Lexeme.masked, List.cons_append, List.append_assoc, List.nil_append,
        List.map_cons, List.map_append, List.map_nil, maskFrom, maskFrom_blockComment stands]
      rfl
  | openComment body =>
      obtain ⟨unclosed, rfl⟩ := stands
      simp only [Lexeme.text, Lexeme.masked, List.append_nil, List.map_cons, maskFrom,
        maskFrom_openComment unclosed]
      rfl
  | literal quote body =>
      obtain ⟨opens, inside⟩ := stands
      have closes : maskFrom (.literal quote) (quote :: rest) = quote :: maskFrom .code rest := by
        rw [maskFrom]
        · simp
        · intro _ _ backslash
          exact absurd backslash (isQuote_ne_backslash opens)
      simp only [Lexeme.text, Lexeme.masked, List.cons_append, List.append_assoc, List.nil_append]
      rw [maskFrom_quote opens, maskFrom_literal inside, closes]
  | cutLiteral quote body =>
      obtain ⟨opens, ⟨inside, breaks⟩ | ⟨rfl, start, rfl, inside⟩⟩ := stands
      · simp only [Lexeme.text, Lexeme.masked, List.cons_append]
        rw [maskFrom_quote opens, maskFrom_literal inside, maskFrom_broken breaks]
      · simp only [Lexeme.text, Lexeme.masked, List.append_nil, List.cons_append]
        rw [maskFrom_quote opens, maskFrom_literal inside]
        simp [maskFrom]
  | other c => exact maskFrom_other stands.1 stands.2

theorem mask_textOf {lexemes : List Lexeme} (readable : Lexeme.Readable lexemes) :
    mask (Lexeme.textOf lexemes) = Lexeme.maskedOf lexemes := by
  unfold mask
  induction lexemes with
  | nil => rfl
  | cons lexeme rest ih =>
      obtain ⟨stands, later⟩ := readable
      rw [Lexeme.textOf_cons, Lexeme.maskedOf_cons, maskFrom_lexeme stands, ih later]

theorem mask_lexeme {lexeme : Lexeme} {rest : Text} (stands : lexeme.StandsBefore rest) :
    mask (lexeme.text ++ rest) = lexeme.masked ++ mask rest := maskFrom_lexeme stands

theorem mask_others {text : Text}
    (plain : text.all (fun c => !isQuote c && c != '/') = true) (rest : Text) :
    mask (text ++ rest) = text ++ mask rest := by
  induction text with
  | nil => rfl
  | cons c text hypothesis =>
      simp only [List.all_cons, Bool.and_eq_true, Bool.not_eq_true', bne_iff_ne] at plain
      obtain ⟨⟨bare, no_slash⟩, later⟩ := plain
      have here : mask (c :: (text ++ rest)) = c :: mask (text ++ rest) :=
        maskFrom_other bare fun slash => absurd slash no_slash
      rw [List.cons_append, here, hypothesis later, List.cons_append]

/-! ## Every script can be read -/

theorem exists_comment (rest : Text) :
    (∃ body after, rest = body ++ '*' :: '/' :: after ∧ ¬ ['*', '/'] <:+: body ++ ['*']) ∨
      ¬ ['*', '/'] <:+: rest := by
  induction rest with
  | nil => exact Or.inr (by simp)
  | cons c rest ih =>
      by_cases closes : ['*', '/'] <+: c :: rest
      · obtain ⟨after, same⟩ := closes
        exact Or.inl ⟨[], after, same.symm, by decide⟩
      · rcases ih with ⟨body, after, rfl, first⟩ | never
        · refine Or.inl ⟨c :: body, after, rfl, ?_⟩
          intro inside
          rcases List.infix_cons_iff.mp inside with front | inside
          · apply closes
            obtain ⟨later, same⟩ := front
            obtain ⟨star, slash⟩ := List.cons.inj same
            cases body with
            | nil => cases (List.cons.inj slash).1
            | cons d body =>
                rw [← star, ← (List.cons.inj slash).1]
                exact ⟨_, rfl⟩
          · exact first inside
        · refine Or.inr ?_
          intro inside
          rcases List.infix_cons_iff.mp inside with front | inside
          · exact closes front
          · exact never inside

/-- A text after a quote holds the quote that closes the literal, or a place where it is cut. -/
theorem exists_literal (quote : Char) (rest : Text) :
    (∃ body after, rest = body ++ quote :: after ∧ LiteralBody quote body) ∨
      ∃ body after, rest = body ++ after ∧
        ((LiteralBody quote body ∧ ∀ c ∈ after.head?, breaksLiteral quote c = true) ∨
          (after = [] ∧ ∃ start, body = start ++ ['\\'] ∧ LiteralBody quote start)) := by
  match rest with
  | [] => exact Or.inr ⟨[], [], rfl, Or.inl ⟨.nil, fun _ none_left => nomatch none_left⟩⟩
  | c :: rest =>
      by_cases closes : c = quote
      · exact Or.inl ⟨[], rest, by rw [closes]; rfl, .nil⟩
      by_cases breaks : breaksLiteral quote c = true
      · refine Or.inr ⟨[], c :: rest, rfl, Or.inl ⟨.nil, ?_⟩⟩
        intro d found
        cases found
        exact breaks
      by_cases escapes : c = '\\'
      · match rest with
        | [] => exact Or.inr ⟨[c], [], rfl, Or.inr ⟨rfl, [], by rw [escapes]; rfl, .nil⟩⟩
        | d :: rest =>
            rw [escapes]
            rcases exists_literal quote rest with
              ⟨body, after, rfl, inside⟩ | ⟨body, after, rfl, cut⟩
            · exact Or.inl ⟨'\\' :: d :: body, after, rfl, .escape d inside⟩
            · refine Or.inr ⟨'\\' :: d :: body, after, rfl, ?_⟩
              rcases cut with ⟨inside, ends⟩ | ⟨ends, start, rfl, inside⟩
              · exact Or.inl ⟨.escape d inside, ends⟩
              · exact Or.inr ⟨ends, '\\' :: d :: start, rfl, .escape d inside⟩
      · have unbroken := Bool.eq_false_iff.mpr breaks
        rcases exists_literal quote rest with
          ⟨body, after, rfl, inside⟩ | ⟨body, after, rfl, cut⟩
        · exact Or.inl ⟨c :: body, after, rfl, .plain escapes closes unbroken inside⟩
        · refine Or.inr ⟨c :: body, after, rfl, ?_⟩
          rcases cut with ⟨inside, ends⟩ | ⟨ends, start, rfl, inside⟩
          · exact Or.inl ⟨.plain escapes closes unbroken inside, ends⟩
          · exact Or.inr ⟨ends, c :: start, rfl, .plain escapes closes unbroken inside⟩

theorem exists_lexeme (c : Char) (rest : Text) :
    ∃ lexeme after, c :: rest = Lexeme.text lexeme ++ after ∧ lexeme.StandsBefore after := by
  by_cases quoted : isQuote c = true
  · rcases exists_literal c rest with ⟨body, after, rfl, inside⟩ | ⟨body, after, rfl, cut⟩
    · exact ⟨.literal c body, after, by simp [Lexeme.text], quoted, inside⟩
    · exact ⟨.cutLiteral c body, after, rfl, quoted, cut⟩
  by_cases comment : c = '/' ∧ ∃ d ∈ rest.head?, d = '/' ∨ d = '*'
  · obtain ⟨rfl, d, found, kind⟩ := comment
    obtain ⟨later, rfl⟩ : ∃ later, rest = d :: later := by
      cases rest with
      | nil => cases found
      | cons first later => exact ⟨later, by rw [Option.some.inj found]⟩
    rcases kind with rfl | rfl
    · refine ⟨.lineComment (later.takeWhile (· != '\n')), later.dropWhile (· != '\n'), ?_, ?_, ?_⟩
      · simp [Lexeme.text]
      · intro feed
        have passed := List.mem_takeWhile_imp feed
        simp at passed
      · intro d first
        have stops := List.head?_dropWhile_not (· != '\n') later
        rw [Option.mem_def.mp first] at stops
        simpa using stops
    · rcases exists_comment later with ⟨body, after, rfl, first⟩ | never
      · exact ⟨.blockComment body, after, by simp [Lexeme.text], first⟩
      · exact ⟨.openComment later, [], by simp [Lexeme.text], never, rfl⟩
  · refine ⟨.other c, rest, rfl, Bool.eq_false_iff.mpr quoted, ?_⟩
    intro slash d found
    refine ⟨fun same => comment ⟨slash, d, found, Or.inl same⟩,
      fun same => comment ⟨slash, d, found, Or.inr same⟩⟩

theorem exists_reading (script : Text) :
    ∃ lexemes, Lexeme.textOf lexemes = script ∧ Lexeme.Readable lexemes := by
  match script with
  | [] => exact ⟨[], rfl, trivial⟩
  | c :: rest =>
      obtain ⟨lexeme, after, split, stands⟩ := exists_lexeme c rest
      have shorter : after.length < (c :: rest).length := by
        have := lexeme.text_pos
        rw [split, List.length_append]
        omega
      obtain ⟨lexemes, rfl, readable⟩ := exists_reading after
      exact ⟨lexeme :: lexemes, by rw [split, Lexeme.textOf_cons], stands, readable⟩
termination_by script.length
decreasing_by exact shorter

theorem mask_length (script : Text) : (mask script).length = script.length := by
  obtain ⟨lexemes, rfl, readable⟩ := exists_reading script
  rw [mask_textOf readable, Lexeme.maskedOf_length]

end StrategyDesk.Script
