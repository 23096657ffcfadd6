import StrategyDesk.Analysis.Module
import StrategyDesk.Proofs.Script.AttachedComment

/-!
# The documentation of a declaration

A declaration or a member is documented by the comment directly before it. That comment is attached
if no opening stands inside it and no `export declare` behind it. Where a comment of another kind is
directly before the declaration, and an earlier one opens a documentation, what is attached goes
from there over all that is declared between.
-/

set_option autoImplicit false

namespace StrategyDesk.Module

open Script

/-- Whether a block comment is the last thing before a place but for blanks and the modifiers. -/
def DirectlyBefore (before : Text) (front : List Lexeme) (body : Text) (modifiers : List String) :
    Prop :=
  ∃ gap : Text, IsReading before (front ++ .blockComment body :: gap.map .other) ∧
    Separates modifiers gap

theorem blockComment_closes (body : Text) :
    "*/".toList <:+ (Lexeme.blockComment body).text := by
  have split : (Lexeme.blockComment body).text = ('/' :: '*' :: body) ++ "*/".toList := rfl
  rw [split]
  exact List.suffix_append _ _

theorem DirectlyBefore.split {before body : Text} {front : List Lexeme} {modifiers : List String}
    (directly : DirectlyBefore before front body modifiers) :
    ∃ gap, Separates modifiers gap ∧
      before = Lexeme.textOf front ++ ((Lexeme.blockComment body).text ++ gap) := by
  obtain ⟨gap, ⟨text, _⟩, separates⟩ := directly
  refine ⟨gap, separates, ?_⟩
  rw [← text, Lexeme.textOf_append, Lexeme.textOf_cons, Lexeme.textOf_others]

/-- The modifiers before a declaration stand in the order in which they are passed over, or are
both there. -/
theorem passed_or_both {modifiers : List String}
    (ordered : modifiers.Sublist ["export", "declare"]) :
    Passed modifiers ∧ modifiers ≠ ["export", "declare"] ∨ modifiers = ["export", "declare"] := by
  have listed : modifiers ∈ ["export", "declare"].sublists := List.mem_sublists.mpr ordered
  have each : ∀ modifiers ∈ ["export", "declare"].sublists,
      modifiers.Sublist ["declare", "export"] ∧ modifiers ≠ ["export", "declare"] ∨
        modifiers = ["export", "declare"] := by
    decide +kernel
  exact each modifiers listed

theorem attached_iff_of_directlyBefore {before body : Text} {front : List Lexeme}
    {modifiers : List String} (directly : DirectlyBefore before front body modifiers)
    (ordered : modifiers.Sublist ["export", "declare"]) :
    let earlier := Lexeme.textOf front
    let comment := (Lexeme.blockComment body).text
    (commentAtEnd? before = some comment ↔
      ("/**".toList <+: comment ∧ ¬ "/**".toList <:+: comment.tail) ∧
        modifiers ≠ ["export", "declare"]) ∧
    (commentAtEnd? before = none ↔
      (¬ "/**".toList <:+: comment ∧ ¬ "/**".toList <:+: earlier) ∨
        modifiers = ["export", "declare"]) ∧
    ((∃ doc, commentAtEnd? before = some doc ∧ comment.length < doc.length) ↔
      (¬ "/**".toList <:+: comment ∧ "/**".toList <:+: earlier) ∧
        modifiers ≠ ["export", "declare"]) := by
  intro earlier comment
  have word : "/**".toList ≠ [] := by decide
  obtain ⟨gap, separates, split⟩ := directly.split
  rcases passed_or_both ordered with ⟨passed, single⟩ | both
  · have attached : commentAtEnd? before =
        Text.lastFrom? "/**".toList (earlier ++ comment) := by
      rw [split]
      exact commentAtEnd?_behind (blockComment_closes body) passed separates
    have apart : "/**".toList <:+: earlier ++ comment ↔
        "/**".toList <:+: earlier ∨ "/**".toList <:+: comment := opening_infix_append rfl
    have ends : comment <:+ earlier ++ comment := List.suffix_append earlier comment
    rw [attached]
    refine ⟨?_, ?_, ?_⟩
    · rw [lastFrom?_eq_some_iff word, and_iff_right ends, and_iff_left single]
    · rw [lastFrom?_eq_none_iff word, apart, not_or, and_comm, or_iff_left single]
    · rw [and_iff_left single]
      exact attached_before_iff rfl
  · have unattached : commentAtEnd? before = none := by
      rw [split, ← List.append_assoc]
      exact commentAtEnd?_exportDeclare _ (both ▸ separates)
    rw [unattached]
    refine ⟨iff_of_false nofun fun exact_one => exact_one.2 both, iff_of_true rfl (Or.inr both), ?_⟩
    refine iff_of_false ?_ fun reaching => reaching.2 both
    rintro ⟨doc, attached, _⟩
    cases attached

/-- The documentation of what stands at a position of a module, a declaration or a member, is the
end of the text before it from the last opening of a documentation on, if a closing is there, up to
blanks and the modifiers `declare` and `export` in that order. Of a comment that is directly before
the position, with `export` and `declare` in their order or fewer of them behind it, it is the whole
if and only if the comment begins with the only opening in it and not both of the modifiers are
there. There is none if and only if both are there, or no opening in the comment or before it; and
it begins before the comment if and only if not both are there, and there is an opening before the
comment and none in it. If anything else stands behind the last comment, in which no closing is,
there is none. -/
theorem documentation_attached_iff (module : Module) (position : Nat) :
    let before := module.body.take position
    (∀ doc, module.comment? position = some doc ↔
      ∃ front gap modifiers, before = front ++ (doc ++ gap) ∧ Passed modifiers ∧
        Separates modifiers gap ∧ IsAttached doc) ∧
    (∀ front body modifiers, DirectlyBefore before front body modifiers →
      modifiers.Sublist ["export", "declare"] →
        let earlier := Lexeme.textOf front
        let comment := (Lexeme.blockComment body).text
        (module.comment? position = some comment ↔
          ("/**".toList <+: comment ∧ ¬ "/**".toList <:+: comment.tail) ∧
            modifiers ≠ ["export", "declare"]) ∧
        (module.comment? position = none ↔
          (¬ "/**".toList <:+: comment ∧ ¬ "/**".toList <:+: earlier) ∨
            modifiers = ["export", "declare"]) ∧
        ((∃ doc, module.comment? position = some doc ∧ comment.length < doc.length) ↔
          (¬ "/**".toList <:+: comment ∧ "/**".toList <:+: earlier) ∧
            modifiers ≠ ["export", "declare"])) ∧
    ∀ front body behind, IsReading before (front ++ .blockComment body :: behind) →
      ¬ "*/".toList <:+: Lexeme.textOf behind →
      (∀ modifiers, Passed modifiers → ¬ Separates modifiers (Lexeme.textOf behind)) →
      module.comment? position = none := by
  refine ⟨commentAtEnd?_eq_some_iff _, ?_, ?_⟩
  · intro front body modifiers directly ordered
    exact attached_iff_of_directlyBefore directly ordered
  · rintro front body behind ⟨text, _⟩ unclosed apart
    rw [comment?, ← text, Lexeme.textOf_append, Lexeme.textOf_cons]
    exact commentAtEnd?_apart (blockComment_closes body) unclosed apart

/-- A module with a documented constant that is exported, and another one with a plain comment. -/
def someConstants : Module :=
  let body := "/** a */ export declare const b; /* c */ const d;".toList
  ofBody body (mask body)

/-- The documentation of the exported constant is left out, and goes to the other constant with all
that stands between. -/
theorem documentation_left_out_and_reached :
    (DirectlyBefore (someConstants.body.take 24) [] "* a ".toList ["export", "declare"] ∧
      someConstants.comment? 24 = none) ∧
    ∃ front, DirectlyBefore (someConstants.body.take 41) front " c ".toList [] ∧
      ∃ doc, someConstants.comment? 41 = some doc ∧
        (Lexeme.blockComment " c ".toList).text.length < doc.length := by
  let exported := " export declare ".toList
  let constant := " export declare const b; ".toList
  let front := Lexeme.blockComment "* a ".toList :: constant.map .other
  have single {gap : Text} (plain : gap.all (fun c => !isQuote c && c != '/') = true) :
      Lexeme.Readable (gap.map .other) := by
    have readable := @Lexeme.readable_others gap [] plain trivial
    rwa [List.append_nil] at readable
  have documented : ¬ ['*', '/'] <:+: "* a ".toList ++ ['*'] := by decide +kernel
  have plain : ¬ ['*', '/'] <:+: " c ".toList ++ ['*'] := by decide +kernel
  have first : DirectlyBefore (someConstants.body.take 24) [] "* a ".toList
      ["export", "declare"] := by
    refine ⟨exported, ⟨by decide +kernel, documented, single (by decide +kernel)⟩, ?_⟩
    have split : exported =
        [' '] ++ ("export".toList ++ ([' '] ++ ("declare".toList ++ [' ']))) := by
      decide +kernel
    have blank : IsBlanks [' '] := List.all_eq_true.mp (by decide)
    rw [split]
    exact .word blank (.word blank (.blanks blank))
  have second : DirectlyBefore (someConstants.body.take 41) front " c ".toList [] := by
    refine ⟨[' '], ⟨by decide +kernel, documented, ?_⟩, .blanks (List.all_eq_true.mp (by decide))⟩
    exact Lexeme.readable_others (by decide +kernel) ⟨plain, single (by decide)⟩
  obtain ⟨_, unattached, _⟩ :=
    (documentation_attached_iff someConstants 24).2.1 _ _ _ first (by decide)
  obtain ⟨_, _, reaching⟩ :=
    (documentation_attached_iff someConstants 41).2.1 _ _ _ second (by decide)
  exact ⟨⟨first, unattached.mpr (Or.inr rfl)⟩, front, second,
    reaching.mpr ⟨⟨by decide +kernel, by decide +kernel⟩, by decide⟩⟩

end StrategyDesk.Module
