import StrategyDesk.Proofs.Script.Balance
import StrategyDesk.Proofs.Script.Declaration

/-!
# Where a block ends

The body of a block is found by counting braces, those in string literals included. The check for
balanced brackets passes over literals and keeps a stack instead. In a balanced script each brace
that opens has its partner on that stack, and the block ends at the partner exactly if the braces
between the two, counted in the literals too, are level.
-/

set_option autoImplicit false

namespace StrategyDesk.Script

/-! ## Counting braces -/

/-- How many braces are open behind a text in front of which `depth` are. There is no number if
more are closed somewhere than were opened before. -/
def bracesOpen : Nat → Text → Option Nat
  | depth, [] => some depth
  | depth, c :: rest =>
      if c = '\x7b' then bracesOpen (depth + 1) rest
      else if c = '\x7d' then
        match depth with
        | 0 => none
        | outer + 1 => bracesOpen outer rest
      else bracesOpen depth rest

theorem bracesOpen_cons (depth : Nat) (c : Char) (rest : Text) :
    bracesOpen depth (c :: rest) =
      if c = '\x7b' then bracesOpen (depth + 1) rest
      else if c = '\x7d' then
        match depth with
        | 0 => none
        | outer + 1 => bracesOpen outer rest
      else bracesOpen depth rest := by
  cases depth <;> rfl

theorem brace_cases (depth : Nat) (c : Char) :
    (∃ next, (∀ rest, bracesOpen depth (c :: rest) = bracesOpen next rest) ∧
        ∀ rest, blockBody depth (c :: rest) = c :: blockBody next rest) ∨
      (∀ rest, bracesOpen depth (c :: rest) = none) ∧
        ∀ rest, blockBody depth (c :: rest) = [] := by
  simp only [bracesOpen_cons, blockBody_cons]
  by_cases opens : c = '\x7b'
  · exact Or.inl ⟨depth + 1, by simp [opens], by simp [opens]⟩
  · by_cases closes : c = '\x7d'
    · cases depth with
      | zero => exact Or.inr ⟨by simp [closes], by simp [closes]⟩
      | succ outer => exact Or.inl ⟨outer, by simp [closes], by simp [closes]⟩
    · exact Or.inl ⟨depth, by simp [opens, closes], by simp [opens, closes]⟩

theorem bracesOpen_append (depth : Nat) (first rest : Text) :
    bracesOpen depth (first ++ rest) =
      (bracesOpen depth first).bind fun between => bracesOpen between rest := by
  induction first generalizing depth with
  | nil => rfl
  | cons c first ih =>
      rcases brace_cases depth c with ⟨next, count, _⟩ | ⟨ended, _⟩
      · rw [List.cons_append, count, count, ih]
      · rw [List.cons_append, ended, ended]
        rfl

theorem bracesOpen_bare {text : Text} (unopened : '\x7b' ∉ text) (unclosed : '\x7d' ∉ text)
    (depth : Nat) : bracesOpen depth text = some depth := by
  induction text with
  | nil => rfl
  | cons c text ih =>
      rw [List.mem_cons, not_or] at unopened unclosed
      rw [bracesOpen_cons, if_neg (Ne.symm unopened.1), if_neg (Ne.symm unclosed.1),
        ih unopened.2 unclosed.2]

theorem blockBody_append {depth left : Nat} {text : Text} (count : bracesOpen depth text = some left)
    (rest : Text) : blockBody depth (text ++ rest) = text ++ blockBody left rest := by
  induction text generalizing depth with
  | nil =>
      cases count
      rfl
  | cons c text ih =>
      rcases brace_cases depth c with ⟨next, onward, body⟩ | ⟨ended, _⟩
      · rw [onward] at count
        rw [List.cons_append, body, ih count, List.cons_append]
      · rw [ended] at count
        cases count

theorem blockBody_length_lt {depth : Nat} {text : Text} (overrun : bracesOpen depth text = none)
    (rest : Text) : (blockBody depth (text ++ rest)).length < text.length := by
  induction text generalizing depth with
  | nil => cases overrun
  | cons c text ih =>
      rcases brace_cases depth c with ⟨next, onward, body⟩ | ⟨_, body⟩
      · rw [onward] at overrun
        have shorter := ih overrun
        rw [List.cons_append, body, List.length_cons, List.length_cons]
        omega
      · rw [List.cons_append, body, List.length_nil, List.length_cons]
        omega

/-- A block that ends in the body of a block around it ends there as in the whole text. -/
theorem blockBody_blockBody (depth around : Nat) (text : Text) :
    blockBody depth (blockBody (depth + around) text) = blockBody depth text := by
  induction text generalizing depth with
  | nil => rfl
  | cons c text ih =>
      by_cases opens : c = '\x7b'
      · rw [opens, blockBody_opener, blockBody_opener, blockBody_opener, Nat.add_right_comm, ih]
      by_cases closes : c = '\x7d'
      · cases depth with
        | zero =>
            rw [closes, blockBody_end]
            cases around with
            | zero => rw [Nat.add_zero, blockBody_end, blockBody]
            | succ around => rw [← Nat.add_assoc, blockBody_closer, blockBody_end]
        | succ depth =>
            rw [closes, Nat.add_right_comm, blockBody_closer, blockBody_closer, blockBody_closer,
              ih]
      · rw [blockBody_cons, if_neg opens, if_neg closes, blockBody_cons, if_neg opens,
          if_neg closes, ih, blockBody_cons, if_neg opens, if_neg closes]

theorem blockBody_prefix (depth : Nat) (text : Text) : blockBody depth text <+: text := by
  induction text generalizing depth with
  | nil => exact List.prefix_refl []
  | cons c text ih =>
      rcases brace_cases depth c with ⟨next, _, body⟩ | ⟨_, ended⟩
      · rw [body]
        exact (List.prefix_cons_inj c).mpr (ih next)
      · rw [ended]
        exact List.nil_prefix

/-- The block that opens in front of a text ends with the text if the braces in it are level, inside
the text if more are closed than were opened, and else behind the brace that follows. -/
theorem blockBody_length_cases (text rest : Text) :
    (bracesOpen 0 text = some 0 ∧ blockBody 0 (text ++ '\x7d' :: rest) = text) ∨
      (bracesOpen 0 text = none ∧
        (blockBody 0 (text ++ '\x7d' :: rest)).length < text.length) ∨
      ((∃ depth, bracesOpen 0 text = some (depth + 1)) ∧
        text.length < (blockBody 0 (text ++ '\x7d' :: rest)).length) := by
  cases count : bracesOpen 0 text with
  | none => exact Or.inr (Or.inl ⟨rfl, blockBody_length_lt count _⟩)
  | some left =>
      have body := blockBody_append count ('\x7d' :: rest)
      cases left with
      | zero =>
          rw [blockBody_end, List.append_nil] at body
          exact Or.inl ⟨rfl, body⟩
      | succ depth =>
          rw [blockBody_closer] at body
          refine Or.inr (Or.inr ⟨⟨depth, rfl⟩, ?_⟩)
          rw [body, List.length_append, List.length_cons]
          omega

/-! ## Pairs of braces -/

namespace Lexeme

theorem stillOpen_append (stack : List Bracket) (first rest : List Lexeme) :
    stillOpen stack (first ++ rest) = stillOpen (stillOpen stack first) rest := List.foldl_append

theorem faultsAlong_append (position : Nat) (stack : List Bracket) (first rest : List Lexeme) :
    faultsAlong position stack (first ++ rest) = faultsAlong position stack first ++
      faultsAlong (position + (textOf first).length) (stillOpen stack first) rest := by
  induction first generalizing position stack with
  | nil => rfl
  | cons lexeme first ih =>
      rw [List.cons_append, faultsAlong, ih, faultsAlong, List.append_assoc, textOf_cons,
        List.length_append, Nat.add_assoc]
      rfl

/-- Whether the check pairs the brace that opens behind `before` with the one that closes behind
`inside`: while it goes over what is between them the stack is never below that brace, and in the
end the brace is on top. -/
structure Pairs (lexemes before inside after : List Lexeme) : Prop where
  split : lexemes =
    before ++ other Bracket.curly.opener :: (inside ++ other Bracket.curly.closer :: after)
  stays : ∀ first, first <+: inside →
    .curly :: stillOpen [] before <:+ stillOpen (.curly :: stillOpen [] before) first
  on_top : stillOpen (.curly :: stillOpen [] before) inside = .curly :: stillOpen [] before

def Unbraced (lexemes : List Lexeme) : Prop :=
  ∀ quote body, literal quote body ∈ lexemes →
    '\x7b' ∉ (literal quote body).text ∧ '\x7d' ∉ (literal quote body).text

end Lexeme

open Lexeme

variable {lexemes before inside after : List Lexeme}

theorem Nested.stays (nested : Nested lexemes) (stack : List Bracket)
    {first : List Lexeme} (front : first <+: lexemes) : stack <:+ stillOpen stack first := by
  induction nested generalizing stack first with
  | nil =>
      rw [List.prefix_nil.mp front]
      exact List.suffix_refl stack
  | @neutral lexeme rest harmless later ih =>
      rcases List.prefix_cons_iff.mp front with rfl | ⟨onward, rfl, front'⟩
      · exact List.suffix_refl stack
      · rw [stillOpen_cons, (fault?_of_neutral harmless 0 stack).2]
        exact ih stack front'
  | @pair bracket inside rest inner later ihInner ihLater =>
      rcases List.prefix_cons_iff.mp front with rfl | ⟨onward, rfl, front'⟩
      · exact List.suffix_refl stack
      rw [stillOpen_cons, (fault?_opener bracket 0 stack).2]
      have above := List.suffix_cons bracket stack
      rcases List.prefix_or_prefix_of_prefix front' (List.prefix_append inside _) with
        within | ⟨behind, rfl⟩
      · exact above.trans (ihInner _ within)
      rw [(inner.passes 0 (bracket :: stack) behind).2]
      rcases List.prefix_cons_iff.mp ((List.prefix_append_right_inj inside).mp front') with
        rfl | ⟨last, rfl, front''⟩
      · exact above
      · rw [stillOpen_cons, leaves_closer]
        exact ihLater stack front''

theorem Nested.pairs
    (split : lexemes =
      before ++ other Bracket.curly.opener :: (inside ++ other Bracket.curly.closer :: after))
    (inner : Nested inside) : Pairs lexemes before inside after where
  split := split
  stays _ front := inner.stays _ front
  on_top := by
    have passed := (inner.passes 0 (.curly :: stillOpen [] before) []).2
    rwa [List.append_nil] at passed

/-- In nested lexemes every brace that opens is closed by one with nested lexemes between. -/
theorem Nested.exists_partner {rest : List Lexeme} (nested : Nested lexemes)
    (split : lexemes = before ++ other Bracket.curly.opener :: rest) :
    ∃ inside after, rest = inside ++ other Bracket.curly.closer :: after ∧ Nested inside := by
  obtain ⟨faultless, closed⟩ := (nested_iff_faultless 0 lexemes).mp nested
  rw [split, faultsAlong_append, List.append_eq_nil_iff] at faultless
  rw [split, stillOpen_append] at closed
  -- What follows the brace unwinds a stack with the brace on top, so it closes the brace.
  have unwinds := unwinds_of_faultless faultless.2 closed
  obtain ⟨none_here, opened⟩ := fault?_opener .curly
    (0 + (textOf before).length) (stillOpen [] before)
  have later := faultless.2
  rw [faultsAlong_cons_of_none none_here, opened] at later
  rw [stillOpen_cons, opened] at closed
  cases unwinds_of_faultless later closed with
  | @close _ outer inside after inner following => exact ⟨inside, after, rfl, inner⟩

theorem Lexeme.Pairs.unique {inside' after' : List Lexeme}
    (pairs : Pairs lexemes before inside after) (pairs' : Pairs lexemes before inside' after') :
    inside = inside' ∧ after = after' := by
  -- The first pair ends below the brace, and the second one must not go there.
  have shorter {inside after inside' after' : List Lexeme}
      (pairs : Pairs lexemes before inside after) (pairs' : Pairs lexemes before inside' after') :
      ¬ inside ++ [other Bracket.curly.closer] <+: inside' := by
    intro front
    have stays := (pairs'.stays _ front).length_le
    rw [stillOpen_append, pairs.on_top, stillOpen_cons, leaves_closer] at stays
    have length : (stillOpen [] before).length + 1 ≤ (stillOpen [] before).length := stays
    omega
  have same := pairs.split.symm.trans pairs'.split
  have tails := (List.cons.inj (List.append_cancel_left same)).2
  rcases List.append_eq_append_iff.mp tails with ⟨between, rfl, rest⟩ | ⟨between, rfl, rest⟩
  · cases between with
    | nil =>
        rw [List.nil_append] at rest
        exact ⟨(List.append_nil _).symm, (List.cons.inj rest).2⟩
    | cons lexeme between =>
        obtain ⟨rfl, _⟩ := List.cons.inj rest
        refine absurd ?_ (shorter pairs pairs')
        exact ⟨between, by simp⟩
  · cases between with
    | nil =>
        rw [List.nil_append] at rest
        exact ⟨List.append_nil _, (List.cons.inj rest).2.symm⟩
    | cons lexeme between =>
        obtain ⟨rfl, _⟩ := List.cons.inj rest
        refine absurd ?_ (shorter pairs' pairs)
        exact ⟨between, by simp⟩

theorem Lexeme.Pairs.nested (nested : Nested lexemes)
    (pairs : Pairs lexemes before inside after) : Nested inside := by
  obtain ⟨inside', after', rest, inner⟩ := nested.exists_partner pairs.split
  have pairs' : Pairs lexemes before inside' after' := inner.pairs (by rw [pairs.split, rest])
  rw [(pairs.unique pairs').1]
  exact inner

/-! ## Braces outside literals -/

theorem bracesOpen_blanks (depth : Nat) (text : Text) :
    bracesOpen depth (text.map blankOut) = some depth := by
  have solid {brace : Char} (feed : brace ≠ '\n') (space : brace ≠ ' ') :
      brace ∉ text.map blankOut := by
    intro inside
    obtain ⟨c, _, rfl⟩ := List.mem_map.mp inside
    exact (blankOut_cases c).elim feed space
  exact bracesOpen_bare (solid (by decide) (by decide)) (solid (by decide) (by decide)) depth

theorem Lexeme.bracesOpen_of_neutral {lexeme : Lexeme} (harmless : lexeme.IsNeutral)
    (unbraced : Unbraced [lexeme]) (depth : Nat) :
    bracesOpen depth lexeme.masked = some depth := by
  cases lexeme with
  | lineComment body => exact bracesOpen_blanks depth _
  | blockComment body => exact bracesOpen_blanks depth _
  | openComment body => exact bracesOpen_blanks depth _
  | cutLiteral quote body => exact harmless.elim
  | literal quote body =>
      obtain ⟨unopened, unclosed⟩ := unbraced quote body (List.mem_singleton_self _)
      exact bracesOpen_bare unopened unclosed depth
  | other c =>
      have curly := harmless .curly
      refine bracesOpen_bare ?_ ?_ depth
      · intro inside
        exact curly.1 (List.mem_singleton.mp inside).symm
      · intro inside
        exact curly.2 (List.mem_singleton.mp inside).symm

theorem bracesOpen_pair (bracket : Bracket) {inside : Text}
    (level : ∀ depth, bracesOpen depth inside = some depth) (depth : Nat) (rest : Text) :
    bracesOpen depth (bracket.opener :: (inside ++ bracket.closer :: rest)) =
      bracesOpen depth rest := by
  cases bracket <;>
    simp [Bracket.opener, Bracket.closer, bracesOpen_cons, bracesOpen_append, level]

theorem Nested.bracesOpen (nested : Nested lexemes) (unbraced : Unbraced lexemes) (depth : Nat) :
    bracesOpen depth (maskedOf lexemes) = some depth := by
  induction nested generalizing depth with
  | nil => rfl
  | @neutral lexeme rest harmless later ih =>
      have here : Unbraced [lexeme] := fun quote body inside =>
        unbraced quote body (List.mem_singleton.mp inside ▸ List.mem_cons_self)
      have onward : Unbraced rest := fun quote body inside =>
        unbraced quote body (List.mem_cons_of_mem _ inside)
      rw [maskedOf_cons, bracesOpen_append, bracesOpen_of_neutral harmless here, Option.bind_some,
        ih onward]
  | @pair bracket inside rest inner later ihInner ihLater =>
      have within : Unbraced inside := fun quote body held =>
        unbraced quote body (List.mem_cons_of_mem _ (List.mem_append_left _ held))
      have onward : Unbraced rest := fun quote body held =>
        unbraced quote body (List.mem_cons_of_mem _ (List.mem_append_right _
          (List.mem_cons_of_mem _ held)))
      rw [maskedOf_cons, maskedOf_append, maskedOf_cons]
      exact (bracesOpen_pair bracket (ihInner within) depth _).trans (ihLater onward depth)

/-! ## The block behind a place -/

/-- Whether no brace opens in a text from a place up to another one. -/
structure NoBraceUpTo (text : Text) (place brace : Nat) : Prop where
  reached : place ≤ brace
  unopened : '\x7b' ∉ (text.take brace).drop place

/-- The block that is found begins behind the first brace. It ends at the partner of the brace if
the braces between the two are level, and before or behind it if more of them are closed or
opened. -/
theorem Lexeme.Pairs.block_cases (pairs : Pairs lexemes before inside after) {place : Nat}
    (first : NoBraceUpTo (maskedOf lexemes) place (textOf before).length) :
    ∃ body, (Cursor.mk place ((maskedOf lexemes).drop place)).block? =
        some ⟨(textOf before).length + 1, body⟩ ∧
      (bracesOpen 0 (maskedOf inside) = some 0 ∧ body = maskedOf inside ∨
        bracesOpen 0 (maskedOf inside) = none ∧ body.length < (textOf inside).length ∨
        (∃ depth, bracesOpen 0 (maskedOf inside) = some (depth + 1)) ∧
          (textOf inside).length < body.length) := by
  have whole : maskedOf lexemes =
      maskedOf before ++ '\x7b' :: (maskedOf inside ++ '\x7d' :: maskedOf after) := by
    rw [pairs.split, maskedOf_append, maskedOf_cons, maskedOf_append, maskedOf_cons]
    rfl
  have length := maskedOf_length before
  have gap : (maskedOf lexemes).drop place = (maskedOf before).drop place ++
      '\x7b' :: (maskedOf inside ++ '\x7d' :: maskedOf after) := by
    rw [whole, List.drop_append_of_le_length (length ▸ first.reached)]
  have unopened : '\x7b' ∉ (maskedOf before).drop place := by
    have clear := first.unopened
    rwa [whole, ← length, List.take_left] at clear
  have start : place + ((maskedOf before).drop place).length + 1 = (textOf before).length + 1 := by
    rw [List.length_drop, length]
    have reached := first.reached
    omega
  refine ⟨blockBody 0 (maskedOf inside ++ '\x7d' :: maskedOf after), ?_, ?_⟩
  · rw [gap, Cursor.block?_append unopened, start]
  · have ends := blockBody_length_cases (maskedOf inside) (maskedOf after)
    rwa [maskedOf_length] at ends

/-- If the braces between are level, the block is what stands between the first brace and its
partner. -/
theorem Lexeme.Pairs.block_eq (pairs : Pairs lexemes before inside after) {place : Nat}
    (first : NoBraceUpTo (maskedOf lexemes) place (textOf before).length)
    (level : bracesOpen 0 (maskedOf inside) = some 0) :
    (Cursor.mk place ((maskedOf lexemes).drop place)).block? =
      some ⟨(textOf before).length + 1, maskedOf inside⟩ := by
  obtain ⟨body, block, ends⟩ := pairs.block_cases first
  rw [level] at ends
  rcases ends with ⟨_, rfl⟩ | ⟨overrun, _⟩ | ⟨⟨depth, left⟩, _⟩
  · exact block
  · cases overrun
  · cases left

theorem Lexeme.Pairs.block_ends (pairs : Pairs lexemes before inside after) {place : Nat}
    (first : NoBraceUpTo (maskedOf lexemes) place (textOf before).length) :
    let partner := (textOf before).length + 1 + (textOf inside).length
    ∃ body, (Cursor.mk place ((maskedOf lexemes).drop place)).block? = some body ∧
      body.start = (textOf before).length + 1 ∧
      (body.stop = partner ↔ bracesOpen 0 (maskedOf inside) = some 0) ∧
      (body.stop < partner ↔ bracesOpen 0 (maskedOf inside) = none) := by
  intro partner
  obtain ⟨body, block, ends⟩ := pairs.block_cases first
  refine ⟨_, block, rfl, ?_⟩
  rcases ends with ⟨level, rfl⟩ | ⟨overrun, shorter⟩ | ⟨⟨depth, left⟩, longer⟩
  · have stop : Span.stop ⟨(textOf before).length + 1, maskedOf inside⟩ = partner := by
      rw [Span.stop, maskedOf_length]
    rw [level]
    exact ⟨iff_of_true stop rfl, iff_of_false (stop ▸ Nat.lt_irrefl _) nofun⟩
  · have stop : Span.stop ⟨(textOf before).length + 1, body⟩ < partner :=
      Nat.add_lt_add_left shorter _
    rw [overrun]
    exact ⟨iff_of_false stop.ne nofun, iff_of_true stop rfl⟩
  · have stop : partner < Span.stop ⟨(textOf before).length + 1, body⟩ :=
      Nat.add_lt_add_left longer _
    rw [left]
    exact ⟨iff_of_false stop.ne' (by simp), iff_of_false stop.asymm nofun⟩

theorem Lexeme.Pairs.slice_eq (pairs : Pairs lexemes before inside after) :
    Text.slice ((textOf before).length + 1) ((textOf before).length + 1 + (maskedOf inside).length)
      (textOf lexemes) = textOf inside := by
  have split : textOf lexemes =
      (textOf before ++ ['\x7b']) ++ (textOf inside ++ '\x7d' :: textOf after) := by
    rw [pairs.split, textOf_append, textOf_cons, textOf_append, textOf_cons, List.append_assoc]
    rfl
  have start : (textOf before).length + 1 = (textOf before ++ ['\x7b']).length := by
    rw [List.length_append]
    rfl
  rw [maskedOf_length, start, split, Text.slice, List.take_length_add_append, List.take_left,
    List.drop_left]

end StrategyDesk.Script
