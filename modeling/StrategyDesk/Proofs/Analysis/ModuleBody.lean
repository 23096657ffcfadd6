import StrategyDesk.Analysis.Module
import StrategyDesk.Proofs.Analysis.ModuleSearch
import StrategyDesk.Proofs.Script.BlockEnd

/-!
# The body of a module

A module holds what is declared between the brace behind its header and the partner of that brace,
and an enumeration has the members between its braces, both if the braces between are level. A brace
in a literal ends the block early or late, although the check for balanced brackets passes over it.
-/

set_option autoImplicit false

namespace StrategyDesk

open Script

theorem Declaration.ofHead_enum {masked name : Text} {position start : Nat} {body : Span}
    (block : (Cursor.mk (start + name.length) (masked.drop (start + name.length))).block? =
      some body) :
    Declaration.ofHead masked ⟨.enumDecl, position, ⟨start, name⟩⟩ =
      ⟨.enumDecl, name, enumMembers body.text, position⟩ := by
  simp only [ofHead, Span.stop, if_pos, block, Option.map_some, Option.getD_some]

namespace Module

theorem firstHeader_rest {name text : Text} {cursor : Cursor}
    (head : (occurrences anywhere (moduleHeader? name) text).head? = some cursor) :
    cursor = ⟨cursor.position, text.drop cursor.position⟩ := by
  rcases firstHeader_cases name text with ⟨_, none_found⟩ | ⟨before, header, rest, split, _, found, _⟩
  · rw [none_found] at head
    cases head
  · rw [found] at head
    cases head
    rw [split, ← List.append_assoc, ← List.length_append, List.drop_left]

/-- In a balanced file each brace has its partner, and the block from a place on that reaches the
brace begins behind it. It ends at the partner if and only if the braces between the two are level,
which they are if no literal there holds a brace, and before it if and only if more of them are
closed than were opened. A module whose braces are level holds what is declared between the first
brace behind its header and the partner, and an enumeration in it whose braces are level has the
members between its own. -/
theorem block_ends_at_partner_iff {content : Text} {lexemes : List Lexeme}
    (reading : IsReading content lexemes) (balanced : faults content = []) :
    (∀ before rest, lexemes = before ++ .other '\x7b' :: rest →
      ∃ inside after, Lexeme.Pairs lexemes before inside after) ∧
    ∀ before inside after, Lexeme.Pairs lexemes before inside after →
      let brace := (Lexeme.textOf before).length
      let partner := brace + 1 + (Lexeme.textOf inside).length
      (∀ place, NoBraceUpTo (mask content) place brace →
        ∃ body, (Cursor.mk place ((mask content).drop place)).block? = some body ∧
          body.start = brace + 1 ∧
          (body.stop = partner ↔ bracesOpen 0 (Lexeme.maskedOf inside) = some 0) ∧
          (body.stop < partner ↔ bracesOpen 0 (Lexeme.maskedOf inside) = none)) ∧
      (Lexeme.Unbraced inside → bracesOpen 0 (Lexeme.maskedOf inside) = some 0) ∧
      (bracesOpen 0 (Lexeme.maskedOf inside) = some 0 →
        (∀ name cursor, mentions name content = true →
          (occurrences anywhere (moduleHeader? name) (mask content)).head? = some cursor →
          NoBraceUpTo (mask content) cursor.position brace →
          search name content =
            .found (ofBody (Lexeme.textOf inside) (Lexeme.maskedOf inside))) ∧
        ∀ head : DeclarationHead, head.keyword = .enumDecl →
          ∀ before' inside' after', Lexeme.Pairs inside before' inside' after' →
            NoBraceUpTo (Lexeme.maskedOf inside) head.name.stop (Lexeme.textOf before').length →
            bracesOpen 0 (Lexeme.maskedOf inside') = some 0 →
            (Declaration.ofHead (Lexeme.maskedOf inside) head).members =
              enumMembers (Lexeme.maskedOf inside')) := by
  have nested : Nested lexemes := (faults_eq_nil_iff_nested reading).mp balanced
  have masked : mask content = Lexeme.maskedOf lexemes := by
    rw [← reading.1, mask_textOf reading.2]
  rw [masked]
  constructor
  · intro before rest split
    obtain ⟨inside, after, rfl, inner⟩ := nested.exists_partner split
    exact ⟨inside, after, inner.pairs split⟩
  intro before inside after pairs brace partner
  refine ⟨fun place => pairs.block_ends,
    fun unbraced => (pairs.nested nested).bracesOpen unbraced 0, ?_⟩
  intro level
  constructor
  · intro name cursor mentioned head first
    have block := pairs.block_eq first level
    rw [← firstHeader_rest head] at block
    rw [search_eq_found mentioned (masked ▸ head) block, Span.stop, ← reading.1]
    dsimp only
    rw [pairs.slice_eq]
  · rintro ⟨_, position, ⟨start, name⟩⟩ rfl before' inside' after' pairs' first' level'
    rw [Declaration.ofHead_enum (pairs'.block_eq first' level')]

/-- In `{'}'}` the brace in the literal is none for the check, and ends the block. -/
theorem brace_in_literal_ends_block :
    let lexemes := [.other '\x7b', .literal '\'' ['\x7d'], .other '\x7d']
    let content := "\x7b'\x7d'\x7d".toList
    IsReading content lexemes ∧ faults content = [] ∧
      Lexeme.Pairs lexemes [] [.literal '\'' ['\x7d']] [] ∧
      ∃ body, (Cursor.mk 0 (mask content)).block? = some body ∧ body.start = 1 ∧ body.stop < 4 := by
  intro lexemes content
  have reading : IsReading content lexemes := by
    refine ⟨by decide +kernel, ⟨by decide, by decide⟩, ⟨by decide, ?_⟩, ⟨by decide, by decide⟩,
      trivial⟩
    exact literalBody_of_plain (by simp)
  have balanced : faults content = [] := by decide +kernel
  have pairs : Lexeme.Pairs lexemes [] [.literal '\'' ['\x7d']] [] :=
    Nested.pairs rfl (.neutral trivial .nil)
  obtain ⟨body, block, start, _, early⟩ :=
    ((block_ends_at_partner_iff reading balanced).2 [] _ [] pairs).1 0 ⟨Nat.le_refl 0, List.not_mem_nil⟩
  exact ⟨reading, balanced, pairs, body, block, start, early.mpr (by decide +kernel)⟩

end Module

end StrategyDesk
