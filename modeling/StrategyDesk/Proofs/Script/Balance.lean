import StrategyDesk.Proofs.Script.Lexeme
import StrategyDesk.Script.Bracket

/-!
# Balanced scripts

A script is balanced if its literals are closed and its brackets are correctly nested, both in a
reading of the script as it is written. The faults of a script are none exactly if it is balanced.
Otherwise they stand, in the order of the text, at literals that are cut and at closing brackets
that do not close the innermost open bracket; then comes one for each bracket that stays open.
-/

set_option autoImplicit false

namespace StrategyDesk.Script

namespace Bracket

theorem ofOpener?_eq_some_iff (c : Char) (bracket : Bracket) :
    ofOpener? c = some bracket ↔ c = bracket.opener := by
  constructor
  · intro found
    have opens := List.find?_some found
    exact (beq_iff_eq.mp opens).symm
  · rintro rfl
    cases bracket <;> rfl

theorem ofCloser?_eq_some_iff (c : Char) (bracket : Bracket) :
    ofCloser? c = some bracket ↔ c = bracket.closer := by
  constructor
  · intro found
    have closes := List.find?_some found
    exact (beq_iff_eq.mp closes).symm
  · rintro rfl
    cases bracket <;> rfl

theorem ofOpener?_closer (bracket : Bracket) : ofOpener? bracket.closer = none := by
  cases bracket <;> rfl

end Bracket

namespace Lexeme

/-- Whether the lexeme may stand anywhere in a balanced script. -/
def IsNeutral : Lexeme → Prop
  | cutLiteral _ _ => False
  | other c => ∀ bracket : Bracket, c ≠ bracket.opener ∧ c ≠ bracket.closer
  | _ => True

/-- The brackets that are open after the lexeme, the innermost first. A closing bracket closes the
innermost one, be it the right one or not. -/
def leaves (openings : List Bracket) : Lexeme → List Bracket
  | other c =>
      match Bracket.ofOpener? c, Bracket.ofCloser? c with
      | some bracket, _ => bracket :: openings
      | none, some _ => openings.tail
      | none, none => openings
  | _ => openings

def stillOpen (openings : List Bracket) (lexemes : List Lexeme) : List Bracket :=
  lexemes.foldl leaves openings

/-- The fault of a lexeme that stands at a position, with these brackets open before it. -/
def fault? (position : Nat) (openings : List Bracket) : Lexeme → Option Finding
  | cutLiteral _ body => some (unclosedLiteral position (position + 1 + body.length))
  | other c =>
      match Bracket.ofCloser? c, openings with
      | none, _ => none
      | some _, [] => some (strayCloser position)
      | some closed, innermost :: _ =>
          if innermost = closed then none else some (closerExpected position 1 innermost)
  | _ => none

/-- The faults of lexemes from a position on, those of brackets that stay open left out. -/
def faultsAlong (position : Nat) (openings : List Bracket) : List Lexeme → List Finding
  | [] => []
  | lexeme :: rest =>
      (lexeme.fault? position openings).toList ++
        faultsAlong (position + lexeme.text.length) (lexeme.leaves openings) rest

end Lexeme

/-- Lexemes without cut literals whose brackets are correctly nested. -/
inductive Nested : List Lexeme → Prop where
  | nil : Nested []
  | neutral {lexeme : Lexeme} {rest : List Lexeme} (harmless : lexeme.IsNeutral)
      (later : Nested rest) : Nested (lexeme :: rest)
  | pair (bracket : Bracket) {inside rest : List Lexeme} (inner : Nested inside)
      (later : Nested rest) :
      Nested (.other bracket.opener :: (inside ++ .other bracket.closer :: rest))

/-- Whether the lexemes are how the script is read. -/
def IsReading (script : Text) (lexemes : List Lexeme) : Prop :=
  Lexeme.textOf lexemes = script ∧ Lexeme.Readable lexemes

def Balanced (script : Text) : Prop := ∃ lexemes, IsReading script lexemes ∧ Nested lexemes

/-! ## Faults, lexeme by lexeme -/

theorem faultsFrom_blanks (position : Nat) (openings : List Bracket) (body rest : Text) :
    faultsFrom none position openings (body.map blankOut ++ rest) =
      faultsFrom none (position + body.length) openings rest := by
  induction body generalizing position with
  | nil => rfl
  | cons c body ih =>
      have passed : faultsFrom none position openings (blankOut c :: (body.map blankOut ++ rest)) =
          faultsFrom none (position + 1) openings (body.map blankOut ++ rest) := by
        rcases blankOut_cases c with same | same <;> rw [same] <;> rfl
      rw [List.map_cons, List.cons_append, passed, ih, List.length_cons]
      congr 1
      omega

example : faults "(// )".toList = [closerExpected 5 0 .round] := by cbv

/-- One character of a literal, unless it is a backslash that takes another one with it. -/
theorem faultsFrom_within {quote c : Char} {rest : Text}
    (bare : ∀ d later, c = '\\' → rest = d :: later → False) (start position : Nat)
    (openings : List Bracket) :
    faultsFrom (some (quote, start)) position openings (c :: rest) =
      if c = quote then faultsFrom none (position + 1) openings rest
      else if breaksLiteral quote c then
        unclosedLiteral start position :: faultsFrom none (position + 1) openings rest
      else faultsFrom (some (quote, start)) (position + 1) openings rest := by
  rw [faultsFrom]
  exact bare

theorem faultsFrom_literal {quote : Char} {body : Text} (inside : LiteralBody quote body)
    (start position : Nat) (openings : List Bracket) (rest : Text) :
    faultsFrom (some (quote, start)) position openings (body ++ rest) =
      faultsFrom (some (quote, start)) (position + body.length) openings rest := by
  induction inside generalizing position with
  | nil => rfl
  | escape c later ih =>
      simp only [List.cons_append, faultsFrom, ih, List.length_cons]
      congr 1
      omega
  | @plain c body bare inside unbroken later ih =>
      rw [List.cons_append, faultsFrom_within fun _ _ same => absurd same bare, if_neg inside,
        unbroken, if_neg Bool.false_ne_true, ih, List.length_cons]
      congr 1
      omega

theorem faultsFrom_quote {quote : Char} (opens : isQuote quote = true) (position : Nat)
    (openings : List Bracket) (rest : Text) :
    faultsFrom none position openings (quote :: rest) =
      faultsFrom (some (quote, position)) (position + 1) openings rest := by
  rw [faultsFrom, if_pos opens]

theorem faultsFrom_broken {quote : Char} {rest : Text}
    (breaks : ∀ c ∈ rest.head?, breaksLiteral quote c = true) (opens : isQuote quote = true)
    (start position : Nat) (openings : List Bracket) :
    faultsFrom (some (quote, start)) position openings (maskFrom .code rest) =
      unclosedLiteral start position ::
        faultsFrom none position openings (maskFrom .code rest) := by
  cases rest with
  | nil => rfl
  | cons c rest =>
      have broken := breaks c rfl
      cases newline_of_breaksLiteral broken
      have other : '\n' ≠ quote := by
        intro same
        rw [← same] at opens
        cases opens
      have newline : maskFrom .code ('\n' :: rest) = '\n' :: maskFrom .code rest :=
        maskFrom_other rfl fun slash => absurd slash (by decide)
      rw [newline, faultsFrom_within fun _ _ backslash => absurd backslash (by decide),
        if_neg other, broken, if_pos rfl]
      rfl

theorem faultsFrom_backslash {quote : Char} (opens : isQuote quote = true)
    (start position : Nat) (openings : List Bracket) :
    faultsFrom (some (quote, start)) position openings ['\\'] =
      unclosedLiteral start (position + 1) :: faultsFrom none (position + 1) openings [] := by
  have bare : '\\' ≠ quote := (isQuote_ne_backslash opens).symm
  have unbroken : breaksLiteral quote '\\' = false := rfl
  have alone : ∀ (d : Char) (later : Text), '\\' = '\\' → [] = d :: later → False := by
    intro d later _ more
    cases more
  rw [faultsFrom_within alone, if_neg bare, unbroken, if_neg Bool.false_ne_true]
  rfl

theorem faultsFrom_other {c : Char} (plain : isQuote c = false) (position : Nat)
    (openings : List Bracket) (rest : Text) :
    faultsFrom none position openings (c :: rest) =
      ((Lexeme.other c).fault? position openings).toList ++
        faultsFrom none (position + 1) ((Lexeme.other c).leaves openings) rest := by
  rw [faultsFrom, plain, if_neg Bool.false_ne_true]
  cases opening : Bracket.ofOpener? c with
  | some bracket =>
      rw [(Bracket.ofOpener?_eq_some_iff c bracket).mp opening]
      cases bracket <;> rfl
  | none =>
      cases closing : Bracket.ofCloser? c with
      | none => simp [Lexeme.fault?, Lexeme.leaves, opening, closing]
      | some closed =>
          cases openings with
          | nil => simp [Lexeme.fault?, Lexeme.leaves, opening, closing]
          | cons innermost outer =>
              by_cases right : innermost = closed
              · simp [Lexeme.fault?, Lexeme.leaves, opening, closing, right]
              · simp [Lexeme.fault?, Lexeme.leaves, opening, closing, right]

theorem faultsFrom_lexeme {lexeme : Lexeme} {rest : Text} (stands : lexeme.StandsBefore rest)
    (position : Nat) (openings : List Bracket) :
    faultsFrom none position openings (lexeme.masked ++ maskFrom .code rest) =
      (lexeme.fault? position openings).toList ++
        faultsFrom none (position + lexeme.text.length) (lexeme.leaves openings)
          (maskFrom .code rest) := by
  cases lexeme with
  | lineComment body => exact faultsFrom_blanks position openings _ _
  | blockComment body => exact faultsFrom_blanks position openings _ _
  | openComment body => exact faultsFrom_blanks position openings _ _
  | literal quote body =>
      obtain ⟨opens, inside⟩ := stands
      simp only [Lexeme.masked, Lexeme.text, Lexeme.fault?, Lexeme.leaves, Option.toList_none,
        List.nil_append, List.cons_append, List.append_assoc]
      rw [faultsFrom_quote opens, faultsFrom_literal inside,
        faultsFrom_within fun _ _ backslash => absurd backslash (isQuote_ne_backslash opens),
        if_pos rfl]
      simp only [List.length_cons, List.length_append, List.length_nil]
      congr 1
      omega
  | cutLiteral quote body =>
      obtain ⟨opens, ⟨inside, breaks⟩ | ⟨rfl, start, rfl, inside⟩⟩ := stands
      · simp only [Lexeme.masked, Lexeme.text, Lexeme.fault?, Lexeme.leaves, Option.toList_some,
          List.cons_append, List.nil_append, List.length_cons]
        rw [faultsFrom_quote opens, faultsFrom_literal inside, faultsFrom_broken breaks opens,
          Nat.add_assoc, Nat.add_comm 1]
      · simp only [Lexeme.masked, Lexeme.text, Lexeme.fault?, Lexeme.leaves, Option.toList_some,
          List.cons_append, List.nil_append, List.length_cons, List.append_assoc]
        rw [faultsFrom_quote opens, faultsFrom_literal inside]
        have stop : position + 1 + start.length + 1 = position + (start.length + 1 + 1) := by omega
        rw [show maskFrom .code [] = [] from rfl, faultsFrom_backslash opens, List.length_append,
          List.length_singleton, ← Nat.add_assoc, stop]
  | other c => exact faultsFrom_other stands.1 position openings _

theorem faultsFrom_maskedOf {lexemes : List Lexeme} (readable : Lexeme.Readable lexemes)
    (position : Nat) (openings : List Bracket) :
    faultsFrom none position openings (Lexeme.maskedOf lexemes) =
      Lexeme.faultsAlong position openings lexemes ++
        (Lexeme.stillOpen openings lexemes).map
          (closerExpected (position + (Lexeme.textOf lexemes).length) 0) := by
  induction lexemes generalizing position openings with
  | nil => rfl
  | cons lexeme rest ih =>
      obtain ⟨stands, later⟩ := readable
      have masked : maskFrom .code (Lexeme.textOf rest) = Lexeme.maskedOf rest := mask_textOf later
      have step := faultsFrom_lexeme stands position openings
      rw [masked, ih later] at step
      rw [Lexeme.maskedOf_cons, step, Lexeme.faultsAlong, List.append_assoc, Lexeme.textOf_cons,
        List.length_append, Nat.add_assoc]
      rfl

/-! ## Correct nesting -/

namespace Lexeme

theorem fault?_of_neutral {lexeme : Lexeme} (harmless : lexeme.IsNeutral) (position : Nat)
    (openings : List Bracket) :
    lexeme.fault? position openings = none ∧ lexeme.leaves openings = openings := by
  cases lexeme with
  | lineComment body => exact ⟨rfl, rfl⟩
  | blockComment body => exact ⟨rfl, rfl⟩
  | openComment body => exact ⟨rfl, rfl⟩
  | literal quote body => exact ⟨rfl, rfl⟩
  | cutLiteral quote body => exact harmless.elim
  | other c =>
      have no_opener : Bracket.ofOpener? c = none := by
        refine Option.eq_none_iff_forall_ne_some.mpr ?_
        intro bracket opening
        exact (harmless bracket).1 ((Bracket.ofOpener?_eq_some_iff c bracket).mp opening)
      have no_closer : Bracket.ofCloser? c = none := by
        refine Option.eq_none_iff_forall_ne_some.mpr ?_
        intro bracket closing
        exact (harmless bracket).2 ((Bracket.ofCloser?_eq_some_iff c bracket).mp closing)
      simp [fault?, leaves, no_opener, no_closer]

theorem fault?_opener (bracket : Bracket) (position : Nat) (openings : List Bracket) :
    (other bracket.opener).fault? position openings = none ∧
      (other bracket.opener).leaves openings = bracket :: openings := by
  cases bracket <;> exact ⟨rfl, rfl⟩

theorem fault?_closer_nil (bracket : Bracket) (position : Nat) :
    (other bracket.closer).fault? position [] = some (strayCloser position) := by
  simp [fault?, (Bracket.ofCloser?_eq_some_iff _ bracket).mpr rfl]

theorem fault?_closer_cons (bracket : Bracket) (position : Nat) (innermost : Bracket)
    (outer : List Bracket) :
    (other bracket.closer).fault? position (innermost :: outer) =
      if innermost = bracket then none else some (closerExpected position 1 innermost) := by
  simp [fault?, (Bracket.ofCloser?_eq_some_iff _ bracket).mpr rfl]

example : (other ']').fault? 2 [.round] = some (closerExpected 2 1 .round) := by cbv

theorem leaves_closer (bracket : Bracket) (openings : List Bracket) :
    (other bracket.closer).leaves openings = openings.tail := by
  simp [leaves, (Bracket.ofCloser?_eq_some_iff _ bracket).mpr rfl, Bracket.ofOpener?_closer]

theorem kinds (lexeme : Lexeme) :
    lexeme.IsNeutral ∨ (∃ bracket : Bracket, lexeme = other bracket.opener) ∨
      (∃ bracket : Bracket, lexeme = other bracket.closer) ∨
        ∃ quote body, lexeme = cutLiteral quote body := by
  cases lexeme with
  | lineComment body => exact Or.inl trivial
  | blockComment body => exact Or.inl trivial
  | openComment body => exact Or.inl trivial
  | literal quote body => exact Or.inl trivial
  | cutLiteral quote body => exact Or.inr (Or.inr (Or.inr ⟨quote, body, rfl⟩))
  | other c =>
      by_cases opens : ∃ bracket : Bracket, c = bracket.opener
      · obtain ⟨bracket, rfl⟩ := opens
        exact Or.inr (Or.inl ⟨bracket, rfl⟩)
      by_cases closes : ∃ bracket : Bracket, c = bracket.closer
      · obtain ⟨bracket, rfl⟩ := closes
        exact Or.inr (Or.inr (Or.inl ⟨bracket, rfl⟩))
      · exact Or.inl fun bracket =>
          ⟨fun same => opens ⟨bracket, same⟩, fun same => closes ⟨bracket, same⟩⟩

end Lexeme

/-- Lexemes that close the given open brackets, each in its turn, with nested lexemes between. -/
inductive Unwinds : List Bracket → List Lexeme → Prop where
  | done {lexemes : List Lexeme} (nested : Nested lexemes) : Unwinds [] lexemes
  | close (bracket : Bracket) {outer : List Bracket} {inside rest : List Lexeme}
      (inner : Nested inside) (later : Unwinds outer rest) :
      Unwinds (bracket :: outer) (inside ++ .other bracket.closer :: rest)

theorem Unwinds.neutral {openings : List Bracket} {lexeme : Lexeme} {rest : List Lexeme}
    (harmless : lexeme.IsNeutral) (later : Unwinds openings rest) :
    Unwinds openings (lexeme :: rest) := by
  cases later with
  | done nested => exact .done (.neutral harmless nested)
  | close bracket inner later => exact .close bracket (.neutral harmless inner) later

theorem Unwinds.opener {openings : List Bracket} {bracket : Bracket} {rest : List Lexeme}
    (later : Unwinds (bracket :: openings) rest) :
    Unwinds openings (.other bracket.opener :: rest) := by
  cases later with
  | close _ inner later =>
      cases later with
      | done nested => exact .done (.pair bracket inner nested)
      | @close outer _ between rest following later =>
          have joined := Unwinds.close outer (.pair bracket inner following) later
          rw [List.cons_append, List.append_assoc, List.cons_append] at joined
          exact joined

theorem unwinds_of_faultless {position : Nat} {openings : List Bracket} {lexemes : List Lexeme}
    (faultless : Lexeme.faultsAlong position openings lexemes = [])
    (closed : Lexeme.stillOpen openings lexemes = []) : Unwinds openings lexemes := by
  induction lexemes generalizing position openings with
  | nil =>
      rw [show openings = [] from closed]
      exact .done .nil
  | cons lexeme rest ih =>
      obtain ⟨fault, later⟩ := List.append_eq_nil_iff.mp faultless
      have onward := ih later closed
      rcases lexeme.kinds with harmless | ⟨bracket, rfl⟩ | ⟨bracket, rfl⟩ | ⟨quote, body, rfl⟩
      · rw [(Lexeme.fault?_of_neutral harmless position openings).2] at onward
        exact onward.neutral harmless
      · rw [(Lexeme.fault?_opener bracket position openings).2] at onward
        exact onward.opener
      · rw [Lexeme.leaves_closer] at onward
        cases openings with
        | nil =>
            rw [Lexeme.fault?_closer_nil] at fault
            cases fault
        | cons innermost outer =>
            rw [Lexeme.fault?_closer_cons] at fault
            by_cases right : innermost = bracket
            · rw [right]
              exact .close bracket .nil onward
            · rw [if_neg right] at fault
              cases fault
      · cases fault

theorem Lexeme.faultsAlong_cons_of_none {lexeme : Lexeme} {position : Nat}
    {openings : List Bracket} (none_here : lexeme.fault? position openings = none)
    (rest : List Lexeme) :
    faultsAlong position openings (lexeme :: rest) =
      faultsAlong (position + lexeme.text.length) (lexeme.leaves openings) rest := by
  rw [faultsAlong, none_here]
  rfl

theorem Lexeme.stillOpen_cons (openings : List Bracket) (lexeme : Lexeme) (rest : List Lexeme) :
    stillOpen openings (lexeme :: rest) = stillOpen (lexeme.leaves openings) rest := rfl

theorem Nested.passes {lexemes : List Lexeme} (nested : Nested lexemes) (position : Nat)
    (openings : List Bracket) (rest : List Lexeme) :
    Lexeme.faultsAlong position openings (lexemes ++ rest) =
        Lexeme.faultsAlong (position + (Lexeme.textOf lexemes).length) openings rest ∧
      Lexeme.stillOpen openings (lexemes ++ rest) = Lexeme.stillOpen openings rest := by
  induction nested generalizing position openings rest with
  | nil => exact ⟨rfl, rfl⟩
  | @neutral lexeme others harmless later ih =>
      obtain ⟨none_here, same⟩ := Lexeme.fault?_of_neutral harmless position openings
      obtain ⟨faults, closed⟩ := ih (position + lexeme.text.length) openings rest
      rw [List.cons_append, Lexeme.faultsAlong_cons_of_none none_here, Lexeme.stillOpen_cons, same,
        faults, closed, Lexeme.textOf_cons, List.length_append, Nat.add_assoc]
      exact ⟨rfl, rfl⟩
  | @pair bracket inside others inner later ihInner ihLater =>
      obtain ⟨none_opening, opened⟩ := Lexeme.fault?_opener bracket position openings
      obtain ⟨faults, closed⟩ := ihInner (position + 1) (bracket :: openings)
        (.other bracket.closer :: (others ++ rest))
      have none_closing := Lexeme.fault?_closer_cons bracket
        (position + 1 + (Lexeme.textOf inside).length) bracket openings
      rw [if_pos rfl] at none_closing
      obtain ⟨laterFaults, laterClosed⟩ :=
        ihLater (position + 1 + (Lexeme.textOf inside).length + 1) openings rest
      have length : (Lexeme.textOf (.other bracket.opener ::
          (inside ++ .other bracket.closer :: others))).length =
            1 + (Lexeme.textOf inside).length + 1 + (Lexeme.textOf others).length := by
        simp only [Lexeme.textOf_cons, Lexeme.textOf_append, List.length_append, Lexeme.text,
          List.length_singleton]
        omega
      rw [List.cons_append, List.append_assoc, List.cons_append,
        Lexeme.faultsAlong_cons_of_none none_opening, Lexeme.stillOpen_cons, opened, length]
      constructor
      · refine faults.trans ?_
        rw [Lexeme.faultsAlong_cons_of_none none_closing, Lexeme.leaves_closer]
        refine laterFaults.trans ?_
        congr 1
        omega
      · refine closed.trans ?_
        rw [Lexeme.stillOpen_cons, Lexeme.leaves_closer]
        exact laterClosed

theorem nested_iff_faultless (position : Nat) (lexemes : List Lexeme) :
    Nested lexemes ↔
      Lexeme.faultsAlong position [] lexemes = [] ∧ Lexeme.stillOpen [] lexemes = [] := by
  constructor
  · intro nested
    have passed := nested.passes position [] []
    rw [List.append_nil] at passed
    exact passed
  · rintro ⟨faultless, closed⟩
    cases unwinds_of_faultless faultless closed with
    | done nested => exact nested

theorem nested_others {text : Text}
    (bare : text.all (fun c =>
      (Bracket.ofOpener? c).isNone && (Bracket.ofCloser? c).isNone) = true)
    {rest : List Lexeme} (later : Nested rest) : Nested (text.map .other ++ rest) := by
  induction text with
  | nil => exact later
  | cons c text ih =>
      simp only [List.all_cons, Bool.and_eq_true, Option.isNone_iff_eq_none] at bare
      refine .neutral ?_ (ih bare.2)
      intro bracket
      constructor
      · intro opens
        rw [(Bracket.ofOpener?_eq_some_iff c bracket).mpr opens] at bare
        cases bare.1.1
      · intro closes
        rw [(Bracket.ofCloser?_eq_some_iff c bracket).mpr closes] at bare
        cases bare.1.2

/-! ## What faults point at -/

/-- What the faults of a reading, other than those of brackets that stay open, point at. -/
inductive PointsAt (lexemes : List Lexeme) : Finding → Prop where
  | cutLiteral {before after : List Lexeme} {quote : Char} {body : Text}
      (split : lexemes = before ++ .cutLiteral quote body :: after) :
      PointsAt lexemes (unclosedLiteral (Lexeme.textOf before).length
        ((Lexeme.textOf before).length + 1 + body.length))
  | strayCloser {before after : List Lexeme} {bracket : Bracket}
      (split : lexemes = before ++ .other bracket.closer :: after)
      (unopened : Lexeme.stillOpen [] before = []) :
      PointsAt lexemes (strayCloser (Lexeme.textOf before).length)
  | wrongCloser {before after : List Lexeme} {bracket innermost : Bracket}
      {outer : List Bracket} (split : lexemes = before ++ .other bracket.closer :: after)
      (opened : Lexeme.stillOpen [] before = innermost :: outer) (wrong : innermost ≠ bracket) :
      PointsAt lexemes (closerExpected (Lexeme.textOf before).length 1 innermost)

theorem mem_faultsAlong {fault : Finding} {position : Nat} {openings : List Bracket}
    {lexemes : List Lexeme} :
    fault ∈ Lexeme.faultsAlong position openings lexemes ↔
      ∃ before lexeme after, lexemes = before ++ lexeme :: after ∧
        lexeme.fault? (position + (Lexeme.textOf before).length)
          (Lexeme.stillOpen openings before) = some fault := by
  induction lexemes generalizing position openings with
  | nil => simp [Lexeme.faultsAlong]
  | cons first rest ih =>
      rw [Lexeme.faultsAlong, List.mem_append, Option.mem_toList, ih]
      constructor
      · rintro (here | ⟨before, lexeme, after, rfl, found⟩)
        · exact ⟨[], first, rest, rfl, here⟩
        · refine ⟨first :: before, lexeme, after, rfl, ?_⟩
          rw [Lexeme.textOf_cons, List.length_append, ← Nat.add_assoc]
          exact found
      · rintro ⟨before, lexeme, after, split, found⟩
        cases before with
        | nil =>
            cases split
            exact Or.inl found
        | cons other before =>
            cases split
            rw [Lexeme.textOf_cons, List.length_append, ← Nat.add_assoc] at found
            exact Or.inr ⟨before, lexeme, after, rfl, found⟩

theorem mem_faultsAlong_iff_pointsAt {fault : Finding} {lexemes : List Lexeme} :
    fault ∈ Lexeme.faultsAlong 0 [] lexemes ↔ PointsAt lexemes fault := by
  rw [mem_faultsAlong]
  constructor
  · rintro ⟨before, lexeme, after, split, found⟩
    rw [Nat.zero_add] at found
    rcases lexeme.kinds with harmless | ⟨bracket, rfl⟩ | ⟨bracket, rfl⟩ | ⟨quote, body, rfl⟩
    · rw [(Lexeme.fault?_of_neutral harmless _ _).1] at found
      cases found
    · rw [(Lexeme.fault?_opener bracket _ _).1] at found
      cases found
    · cases opened : Lexeme.stillOpen [] before with
      | nil =>
          rw [opened, Lexeme.fault?_closer_nil] at found
          cases found
          exact .strayCloser split opened
      | cons innermost outer =>
          rw [opened, Lexeme.fault?_closer_cons] at found
          by_cases right : innermost = bracket
          · simp [right] at found
          · rw [if_neg right] at found
            cases found
            exact .wrongCloser split opened right
    · cases found
      exact .cutLiteral split
  · intro points
    cases points with
    | cutLiteral split => exact ⟨_, _, _, split, by rw [Nat.zero_add]; rfl⟩
    | @strayCloser before _ bracket split unopened =>
        refine ⟨before, _, _, split, ?_⟩
        rw [Nat.zero_add, unopened, Lexeme.fault?_closer_nil]
    | @wrongCloser before _ bracket innermost outer split opened wrong =>
        refine ⟨before, _, _, split, ?_⟩
        rw [Nat.zero_add, opened, Lexeme.fault?_closer_cons, if_neg wrong]

/-- A fault points at a quote or a closing bracket, and does not reach beyond the script. -/
theorem PointsAt.inside {script : Text} {lexemes : List Lexeme} {fault : Finding}
    (reading : IsReading script lexemes) (points : PointsAt lexemes fault) :
    fault.start + fault.length ≤ script.length ∧ ∃ c, script[fault.start]? = some c ∧
      (isQuote c = true ∨ ∃ bracket : Bracket, c = bracket.closer) := by
  obtain ⟨rfl, readable⟩ := reading
  have placed (before after : List Lexeme) (c : Char) (later : Text) (lexeme : Lexeme)
      (head : lexeme.text = c :: later) :
      (Lexeme.textOf before).length + lexeme.text.length ≤
          (Lexeme.textOf (before ++ lexeme :: after)).length ∧
        (Lexeme.textOf (before ++ lexeme :: after))[(Lexeme.textOf before).length]? = some c := by
    rw [Lexeme.textOf_append, Lexeme.textOf_cons, head]
    constructor
    · simp only [List.length_append]
      omega
    · simp
  cases points with
  | @cutLiteral before after quote body split =>
      cases split
      obtain ⟨within, found⟩ := placed before after quote body (.cutLiteral quote body) rfl
      refine ⟨?_, quote, found, Or.inl (Lexeme.stands_of_readable readable).1⟩
      simp only [unclosedLiteral, Finding.error, Lexeme.text, List.length_cons] at within ⊢
      omega
  | @strayCloser before after bracket split unopened =>
      cases split
      obtain ⟨within, found⟩ := placed before after bracket.closer [] (.other bracket.closer) rfl
      exact ⟨within, bracket.closer, found, Or.inr ⟨bracket, rfl⟩⟩
  | @wrongCloser before after bracket innermost outer split opened wrong =>
      cases split
      obtain ⟨within, found⟩ := placed before after bracket.closer [] (.other bracket.closer) rfl
      exact ⟨within, bracket.closer, found, Or.inr ⟨bracket, rfl⟩⟩

theorem faults_eq_along {script : Text} {lexemes : List Lexeme}
    (reading : IsReading script lexemes) :
    faults script = Lexeme.faultsAlong 0 [] lexemes ++
      (Lexeme.stillOpen [] lexemes).map (closerExpected script.length 0) := by
  obtain ⟨rfl, readable⟩ := reading
  rw [faults, mask_textOf readable, faultsFrom_maskedOf readable, Nat.zero_add]

theorem faults_eq_nil_iff_nested {script : Text} {lexemes : List Lexeme}
    (reading : IsReading script lexemes) : faults script = [] ↔ Nested lexemes := by
  rw [faults_eq_along reading, List.append_eq_nil_iff, List.map_eq_nil_iff,
    nested_iff_faultless 0]

/-- A script is without faults exactly if it is balanced. Read in whichever way, its faults are
those of its cut literals and its stray and wrong closing brackets, and then, at its end, one for
each bracket that stays open; none reaches beyond the script. -/
theorem faultless_iff_balanced (script : Text) :
    (faults script = [] ↔ Balanced script) ∧
      (∃ lexemes, IsReading script lexemes) ∧
        ∀ lexemes, IsReading script lexemes →
          (∀ fault ∈ faults script, fault.start + fault.length ≤ script.length) ∧
            ∃ along, faults script =
                along ++ (Lexeme.stillOpen [] lexemes).map (closerExpected script.length 0) ∧
              (∀ fault, fault ∈ along ↔ PointsAt lexemes fault) ∧
                ∀ fault ∈ along, ∃ c, script[fault.start]? = some c ∧
                  (isQuote c = true ∨ ∃ bracket : Bracket, c = bracket.closer) := by
  refine ⟨?_, exists_reading script, ?_⟩
  · constructor
    · intro faultless
      obtain ⟨lexemes, reading⟩ := exists_reading script
      exact ⟨lexemes, reading, (faults_eq_nil_iff_nested reading).mp faultless⟩
    · rintro ⟨lexemes, reading, nested⟩
      exact (faults_eq_nil_iff_nested reading).mpr nested
  · intro lexemes reading
    refine ⟨?_, _, faults_eq_along reading, fun fault => mem_faultsAlong_iff_pointsAt, ?_⟩
    · intro fault found
      rw [faults_eq_along reading, List.mem_append, List.mem_map] at found
      rcases found with along | ⟨bracket, _, rfl⟩
      · exact ((mem_faultsAlong_iff_pointsAt.mp along).inside reading).1
      · exact Nat.le_refl _
    · intro fault along
      exact ((mem_faultsAlong_iff_pointsAt.mp along).inside reading).2

/-- In `[(a]'x` the closing bracket is a wrong one, the literal is cut, and a bracket stays open. -/
theorem crossed_brackets_unbalanced :
    IsReading ['[', '(', 'a', ']', '\'', 'x']
        [.other '[', .other '(', .other 'a', .other ']', .cutLiteral '\'' ['x']] ∧
      ¬ Balanced ['[', '(', 'a', ']', '\'', 'x'] ∧
      ∃ along, faults ['[', '(', 'a', ']', '\'', 'x'] =
        along ++ [closerExpected 6 0 .square] ∧ closerExpected 3 1 .round ∈ along ∧
          unclosedLiteral 4 6 ∈ along := by
  have inside : LiteralBody '\'' ['x'] := literalBody_of_plain (by simp)
  have reading : IsReading ['[', '(', 'a', ']', '\'', 'x']
      [.other '[', .other '(', .other 'a', .other ']', .cutLiteral '\'' ['x']] := by
    refine ⟨rfl, ?_⟩
    simp [Lexeme.Readable, Lexeme.StandsBefore, Lexeme.textOf, isQuote, inside]
  obtain ⟨balanced, _, pointing⟩ := faultless_iff_balanced ['[', '(', 'a', ']', '\'', 'x']
  obtain ⟨_, along, split, points, _⟩ := pointing _ reading
  refine ⟨reading, ?_, along, split, ?_, ?_⟩
  · intro holds
    rw [balanced.mpr holds] at split
    exact absurd split.symm (List.append_ne_nil_of_right_ne_nil along (List.cons_ne_nil _ _))
  · have place : [Lexeme.other '[', .other '(', .other 'a', .other ']', .cutLiteral '\'' ['x']] =
        [.other '[', .other '(', .other 'a'] ++
          .other Bracket.square.closer :: [.cutLiteral '\'' ['x']] := rfl
    have opened : Lexeme.stillOpen [] [.other '[', .other '(', .other 'a'] =
        [.round, .square] := rfl
    exact (points _).mpr (.wrongCloser place opened (by decide))
  · have place : [Lexeme.other '[', .other '(', .other 'a', .other ']', .cutLiteral '\'' ['x']] =
        [.other '[', .other '(', .other 'a', .other ']'] ++ .cutLiteral '\'' ['x'] :: [] := rfl
    exact (points _).mpr (.cutLiteral place)

end StrategyDesk.Script
