import StrategyDesk.Proofs.Script.Lexeme
import StrategyDesk.Proofs.Script.Reading

/-!
# One reading of a script

A script is read as lexemes in one way only. The first two characters of a text tell what kind of
lexeme it begins with, and the kind tells where the lexeme ends: a block comment at its first
closing mark, a literal at the first character that its body cannot go on with.
-/

set_option autoImplicit false

namespace StrategyDesk.Script

/-! ## The kind of a lexeme -/

def regionAhead : Text → Region
  | '/' :: '/' :: _ => .lineComment
  | '/' :: '*' :: _ => .blockComment
  | c :: _ => if isQuote c then .literal c else .code
  | [] => .code

def Lexeme.region : Lexeme → Region
  | lineComment _ => .lineComment
  | blockComment _ => .blockComment
  | openComment _ => .blockComment
  | literal quote _ => .literal quote
  | cutLiteral quote _ => .literal quote
  | other _ => .code

theorem regionAhead_quote {quote : Char} (opens : isQuote quote = true) (rest : Text) :
    regionAhead (quote :: rest) = .literal quote := by
  have no_slash : quote ≠ '/' := by
    rintro rfl
    cases opens
  rw [regionAhead, if_pos opens]
  · exact fun _ slash _ => no_slash slash
  · exact fun _ slash _ => no_slash slash

theorem regionAhead_lexeme {lexeme : Lexeme} {rest : Text} (stands : lexeme.StandsBefore rest) :
    regionAhead (lexeme.text ++ rest) = lexeme.region := by
  cases lexeme with
  | lineComment body => rfl
  | blockComment body => rfl
  | openComment body => rfl
  | literal quote body => exact regionAhead_quote stands.1 _
  | cutLiteral quote body => exact regionAhead_quote stands.1 _
  | other c =>
      obtain ⟨plain, alone⟩ := stands
      show regionAhead (c :: rest) = .code
      rw [regionAhead, plain, if_neg Bool.false_ne_true]
      · intro later slash same
        exact (alone slash '/' (by rw [same]; rfl)).1 rfl
      · intro later slash same
        exact (alone slash '*' (by rw [same]; rfl)).2 rfl

/-! ## Where comments end -/

theorem lineComment_unique {body body' rest rest' : Text} (whole : '\n' ∉ body)
    (ends : ∀ c ∈ rest.head?, c = '\n') (whole' : '\n' ∉ body')
    (ends' : ∀ c ∈ rest'.head?, c = '\n') (same : body ++ rest = body' ++ rest') :
    body = body' := by
  have longest {body rest : Text} (whole : '\n' ∉ body) (ends : ∀ c ∈ rest.head?, c = '\n') :
      LongestRun (· != '\n') body rest := by
    refine ⟨?_, ?_⟩
    · intro c inside
      rw [bne_iff_ne]
      rintro rfl
      exact whole inside
    · intro c first
      rw [ends c first, bne_self_eq_false]
  rw [← (longest whole ends).takeWhile_eq, same, (longest whole' ends').takeWhile_eq]

/-- A text is split at its first closing mark in one way. -/
theorem blockComment_unique {body body' rest rest' : Text}
    (first : ¬ ['*', '/'] <:+: body ++ ['*']) (first' : ¬ ['*', '/'] <:+: body' ++ ['*'])
    (same : body ++ '*' :: '/' :: rest = body' ++ '*' :: '/' :: rest') : body = body' := by
  have no_later {body body' between rest rest' : Text}
      (first' : ¬ ['*', '/'] <:+: body' ++ ['*']) (longer : body' = body ++ between)
      (split : '*' :: '/' :: rest = between ++ '*' :: '/' :: rest') : between = [] := by
    match between with
    | [] => rfl
    | [c] =>
        obtain ⟨_, slash⟩ := List.cons.inj split
        cases (List.cons.inj slash).1
    | c :: d :: between =>
        obtain ⟨rfl, slash⟩ := List.cons.inj split
        obtain ⟨rfl, _⟩ := List.cons.inj slash
        exact absurd ⟨body, between ++ ['*'], by simp [longer]⟩ first'
  rcases List.append_eq_append_iff.mp same with ⟨between, longer, split⟩ | ⟨between, longer, split⟩
  · rw [longer, no_later first' longer split, List.append_nil]
  · rw [longer, no_later first longer split, List.append_nil]

theorem openComment_ne_blockComment {body body' rest : Text}
    (unclosed : ¬ ['*', '/'] <:+: body) :
    (Lexeme.openComment body).text ≠ (Lexeme.blockComment body').text ++ rest := by
  intro same
  simp only [Lexeme.text, List.cons_append, List.append_assoc, List.nil_append,
    List.cons.injEq, true_and] at same
  exact unclosed ⟨body', rest, by simp [same]⟩

/-! ## Where literals end -/

/-- Whether no literal body with the quote goes on into the text. -/
def EndsBody (quote : Char) (rest : Text) : Prop :=
  rest = ['\\'] ∨ ∀ c ∈ rest.head?, c = quote ∨ breaksLiteral quote c = true

theorem LiteralBody.eq_nil {quote : Char} (opens : isQuote quote = true) {body rest : Text}
    (inside : LiteralBody quote body) (ends : EndsBody quote (body ++ rest)) : body = [] := by
  cases inside with
  | nil => rfl
  | escape c later =>
      rcases ends with alone | stops
      · cases alone
      · rcases stops '\\' rfl with closes | breaks
        · exact absurd closes.symm (isQuote_ne_backslash opens)
        · cases breaks
  | plain bare inside unbroken later =>
      rcases ends with alone | stops
      · exact absurd (List.cons.inj alone).1 bare
      · rcases stops _ rfl with closes | breaks
        · exact absurd closes inside
        · rw [unbroken] at breaks
          cases breaks

theorem LiteralBody.unique {quote : Char} (opens : isQuote quote = true)
    {body body' rest rest' : Text} (inside : LiteralBody quote body)
    (inside' : LiteralBody quote body') (ends : EndsBody quote rest)
    (ends' : EndsBody quote rest') (same : body ++ rest = body' ++ rest') : body = body' := by
  induction inside generalizing body' with
  | nil =>
      rw [List.nil_append] at same
      rw [same] at ends
      exact (inside'.eq_nil opens ends).symm
  | escape c later ih =>
      cases inside' with
      | nil =>
          rw [List.nil_append] at same
          rw [← same] at ends'
          exact (LiteralBody.escape c later).eq_nil opens ends'
      | escape d later' =>
          obtain ⟨rfl, onward⟩ := List.cons.inj (List.cons.inj same).2
          rw [ih later' onward]
      | plain bare => exact absurd (List.cons.inj same).1.symm bare
  | plain bare inside unbroken later ih =>
      cases inside' with
      | nil =>
          rw [List.nil_append] at same
          rw [← same] at ends'
          exact (LiteralBody.plain bare inside unbroken later).eq_nil opens ends'
      | escape d later' => exact absurd (List.cons.inj same).1 bare
      | plain bare' inside' unbroken' later' =>
          obtain ⟨rfl, onward⟩ := List.cons.inj same
          rw [ih later' onward]

/-- The literal with this quote and this body, as it is read before this text: it is closed if the
quote follows, and a backslash that the script ends with is taken into it. -/
def literalBefore (quote : Char) (body rest : Text) : Lexeme :=
  if rest.head? = some quote then .literal quote body
  else if rest = ['\\'] then .cutLiteral quote (body ++ rest) else .cutLiteral quote body

theorem exists_literalBefore {lexeme : Lexeme} {quote : Char} {rest : Text}
    (region : lexeme.region = .literal quote) (stands : lexeme.StandsBefore rest) :
    isQuote quote = true ∧ ∃ body behind, lexeme.text ++ rest = quote :: (body ++ behind) ∧
      LiteralBody quote body ∧ EndsBody quote behind ∧ lexeme = literalBefore quote body behind := by
  cases lexeme with
  | literal quote' body =>
      cases region
      obtain ⟨opens, inside⟩ := stands
      refine ⟨opens, body, quote :: rest, by simp [Lexeme.text], inside, Or.inr ?_, ?_⟩
      · intro c first
        exact Or.inl (Option.some.inj first).symm
      · have closed : (quote :: rest).head? = some quote := rfl
        rw [literalBefore, if_pos closed]
  | cutLiteral quote' body =>
      cases region
      obtain ⟨opens, ⟨inside, breaks⟩ | ⟨rfl, start, rfl, inside⟩⟩ := stands
      · refine ⟨opens, body, rest, rfl, inside, Or.inr fun c first => Or.inr (breaks c first), ?_⟩
        have unclosed : ¬ rest.head? = some quote := by
          intro first
          cases newline_of_breaksLiteral (breaks quote first)
          cases opens
        have unescaped : ¬ rest = ['\\'] := by
          rintro rfl
          cases breaks '\\' rfl
        rw [literalBefore, if_neg unclosed, if_neg unescaped]
      · refine ⟨opens, start, ['\\'], by simp [Lexeme.text], inside, Or.inl rfl, ?_⟩
        have unclosed : ¬ ['\\'].head? = some quote := fun first =>
          isQuote_ne_backslash opens (Option.some.inj first).symm
        rw [literalBefore, if_neg unclosed, if_pos rfl]
  | _ => cases region

/-! ## Readings -/

theorem lexeme_unique {lexeme lexeme' : Lexeme} {rest rest' : Text}
    (stands : lexeme.StandsBefore rest) (stands' : lexeme'.StandsBefore rest')
    (same : lexeme.text ++ rest = lexeme'.text ++ rest') : lexeme = lexeme' := by
  have region : lexeme.region = lexeme'.region := by
    rw [← regionAhead_lexeme stands, same, regionAhead_lexeme stands']
  have literals {quote : Char} (own : lexeme.region = .literal quote) : lexeme = lexeme' := by
    obtain ⟨opens, body, behind, split, inside, ends, rfl⟩ := exists_literalBefore own stands
    obtain ⟨_, body', behind', split', inside', ends', rfl⟩ :=
      exists_literalBefore (region.symm.trans own) stands'
    rw [split, split'] at same
    have onward := (List.cons.inj same).2
    cases inside.unique opens inside' ends ends' onward
    rw [List.append_cancel_left onward]
  cases lexeme with
  | lineComment body =>
      cases lexeme' with
      | lineComment body' =>
          have onward := (List.cons.inj (List.cons.inj same).2).2
          rw [lineComment_unique stands.1 stands.2 stands'.1 stands'.2 onward]
      | _ => cases region
  | blockComment body =>
      cases lexeme' with
      | blockComment body' =>
          simp only [Lexeme.text, List.cons_append, List.append_assoc, List.nil_append,
            List.cons.injEq, true_and] at same
          rw [blockComment_unique stands stands' same]
      | openComment body' =>
          rw [stands'.2, List.append_nil] at same
          exact absurd same.symm (openComment_ne_blockComment stands'.1)
      | _ => cases region
  | openComment body =>
      cases lexeme' with
      | blockComment body' =>
          rw [stands.2, List.append_nil] at same
          exact absurd same (openComment_ne_blockComment stands.1)
      | openComment body' =>
          rw [stands.2, stands'.2, List.append_nil, List.append_nil] at same
          rw [(List.cons.inj (List.cons.inj same).2).2]
      | _ => cases region
  | literal quote body => exact literals rfl
  | cutLiteral quote body => exact literals rfl
  | other c =>
      cases lexeme' with
      | other c' => rw [(List.cons.inj same).1]
      | _ => cases region

/-- Two readings of one text are the same. -/
theorem readable_unique {lexemes lexemes' : List Lexeme} (readable : Lexeme.Readable lexemes)
    (readable' : Lexeme.Readable lexemes')
    (same : Lexeme.textOf lexemes = Lexeme.textOf lexemes') : lexemes = lexemes' := by
  have filled (lexeme : Lexeme) (rest : List Lexeme) : Lexeme.textOf (lexeme :: rest) ≠ [] := by
    intro empty
    have positive := lexeme.text_pos
    rw [Lexeme.textOf_cons, List.append_eq_nil_iff] at empty
    rw [empty.1] at positive
    cases positive
  induction lexemes generalizing lexemes' with
  | nil =>
      cases lexemes' with
      | nil => rfl
      | cons lexeme' rest' => exact absurd same.symm (filled lexeme' rest')
  | cons lexeme rest ih =>
      cases lexemes' with
      | nil => exact absurd same (filled lexeme rest)
      | cons lexeme' rest' =>
          rw [Lexeme.textOf_cons, Lexeme.textOf_cons] at same
          obtain rfl := lexeme_unique readable.1 readable'.1 same
          rw [ih readable.2 readable'.2 (List.append_cancel_left same)]

end StrategyDesk.Script
