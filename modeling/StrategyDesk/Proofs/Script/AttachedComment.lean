import Mathlib.Data.List.Sublists
import StrategyDesk.Proofs.Script.Balance
import StrategyDesk.Proofs.Script.Scanning
import StrategyDesk.Proofs.Script.Trimmed
import StrategyDesk.Script.Documentation

/-!
# The comment before a declaration

Back from a declaration, blanks and modifiers are passed over, and if a comment ends there its
opening is looked for from the end of the text. Of the modifiers `export` is dropped first and
`declare` after it, so what is passed over is `declare export` and not `export declare`. The last
opening need not be that of the comment: it may stand in the comment, or in an earlier one.
-/

set_option autoImplicit false

namespace StrategyDesk.Script

/-! ## The last occurrence of a word -/

theorem lastFrom?_eq_none_iff {word : Text} (filled : word ≠ []) (text : Text) :
    Text.lastFrom? word text = none ↔ ¬ word <:+: text := by
  induction text with
  | nil =>
      have unread : ¬ word.isEmpty = true := fun empty => filled (List.isEmpty_iff.mp empty)
      rw [List.infix_nil, Text.lastFrom?, if_neg unread]
      exact iff_of_true rfl filled
  | cons c rest ih =>
      rw [List.infix_cons_iff, not_or, ← ih, Text.lastFrom?]
      cases Text.lastFrom? word rest with
      | some found => simp
      | none => simp [List.isPrefixOf_iff_prefix]

/-- The last occurrence of a word begins the shortest end of the text that begins with it. -/
theorem lastFrom?_eq_some_iff {word : Text} (filled : word ≠ []) (text found : Text) :
    Text.lastFrom? word text = some found ↔
      found <:+ text ∧ word <+: found ∧ ¬ word <:+: found.tail := by
  induction text with
  | nil =>
      have unread : ¬ word.isEmpty = true := fun empty => filled (List.isEmpty_iff.mp empty)
      rw [Text.lastFrom?, if_neg unread]
      refine iff_of_false nofun ?_
      rintro ⟨ends, begins, _⟩
      rw [List.suffix_nil.mp ends, List.prefix_nil] at begins
      exact filled begins
  | cons c rest ih =>
      rw [List.suffix_cons_iff, Text.lastFrom?]
      cases later : Text.lastFrom? word rest with
      | some found' =>
          have occurs : word <:+: rest := by
            by_contra never
            rw [(lastFrom?_eq_none_iff filled rest).mpr never] at later
            cases later
          rw [later] at ih
          refine ih.trans ⟨fun ⟨ends, last⟩ => ⟨Or.inr ends, last⟩, ?_⟩
          rintro ⟨rfl | ends, begins, last⟩
          · exact absurd occurs last
          · exact ⟨ends, begins, last⟩
      | none =>
          have never := (lastFrom?_eq_none_iff filled rest).mp later
          have unread : ¬ (found <:+ rest ∧ word <+: found) := fun ⟨ends, begins⟩ =>
            never (begins.isInfix.trans ends.isInfix)
          simp only [List.isPrefixOf_iff_prefix, Option.ite_none_right_eq_some, Option.some.injEq]
          constructor
          · rintro ⟨begins, rfl⟩
            exact ⟨Or.inl rfl, begins, never⟩
          · rintro ⟨rfl | ends, begins, last⟩
            · exact ⟨begins, rfl⟩
            · exact absurd ⟨ends, begins⟩ unread

/-! ## What is passed over -/

/-- What may stand between a comment and a declaration: the modifiers in their order, with blanks or
nothing around them. -/
inductive Separates : List String → Text → Prop where
  | blanks {gap : Text} (blank : IsBlanks gap) : Separates [] gap
  | word {lead gap : Text} {modifier : String} {modifiers : List String} (leads : IsBlanks lead)
      (later : Separates modifiers gap) :
      Separates (modifier :: modifiers) (lead ++ (modifier.toList ++ gap))

/-- What is left of a text without the modifiers and blanks at its end. -/
def withoutModifiers (before : Text) : Text :=
  ["export", "declare"].foldl dropModifier (Text.trimEnd before)

theorem commentAtEnd?_eq (before : Text) :
    commentAtEnd? before =
      if "*/".toList.isSuffixOf (withoutModifiers before) then
        Text.lastFrom? "/**".toList (withoutModifiers before)
      else none := rfl

theorem dropModifier_append (front : Text) (modifier : String) :
    dropModifier (front ++ modifier.toList) modifier = Text.trimEnd front := by
  have found : Text.dropEnding? modifier.toList (front ++ modifier.toList) = some front := by
    have begins : modifier.toList.reverse.isPrefixOf? (front ++ modifier.toList).reverse =
        some front.reverse :=
      List.isPrefixOf?_eq_some_iff_append_eq.mpr List.reverse_append.symm
    rw [Text.dropEnding?, begins, Option.map_some, List.reverse_reverse]
  rw [dropModifier, found, Option.getD_some]

theorem dropModifier_of_not_suffix {text : Text} {modifier : String}
    (other : ¬ modifier.toList <:+ text) : dropModifier text modifier = Text.trimEnd text := by
  have missing : modifier.toList.reverse.isPrefixOf? text.reverse = none := by
    cases found : modifier.toList.reverse.isPrefixOf? text.reverse with
    | none => rfl
    | some rest =>
        have split := List.isPrefixOf?_eq_some_iff_append_eq.mp found
        exact absurd (List.reverse_prefix.mp ⟨rest, split⟩) other
  rw [dropModifier, Text.dropEnding?, missing, Option.map_none, Option.getD_none]

theorem Separates.append_blanks {modifiers : List String} {lead gap : Text} (leads : IsBlanks lead)
    (separates : Separates modifiers gap) : Separates modifiers (lead ++ gap) := by
  have both {first second : Text} (blank : IsBlanks first) (blank' : IsBlanks second) :
      IsBlanks (first ++ second) := fun c inside =>
    (List.mem_append.mp inside).elim (blank c) (blank' c)
  cases separates with
  | blanks blank => exact .blanks (both leads blank)
  | word leads' later =>
      rw [← List.append_assoc]
      exact .word (both leads leads') later

/-- Dropping modifiers passes over some of them, of which the one dropped last stands first. -/
theorem exists_passed (order : List String) {text gap : Text} {passed : List String}
    (separates : Separates passed gap) :
    ∃ (dropped : List String) (gap' : Text), dropped.Sublist order ∧
      Separates (dropped.reverse ++ passed) gap' ∧
      text ++ gap = order.foldl dropModifier text ++ gap' := by
  induction order generalizing text gap passed with
  | nil => exact ⟨[], gap, .slnil, separates, rfl⟩
  | cons modifier order ih =>
      rw [List.foldl_cons]
      by_cases ends : modifier.toList <:+ text
      · obtain ⟨front, rfl⟩ := ends
        obtain ⟨lead, leads, split⟩ := exists_trimEnd front
        have behind : Separates (modifier :: passed) (lead ++ (modifier.toList ++ gap)) :=
          .word leads separates
        obtain ⟨dropped, gap', sublist, separates', same⟩ := @ih (Text.trimEnd front) _ _ behind
        refine ⟨modifier :: dropped, gap', sublist.cons_cons modifier, ?_, ?_⟩
        · rwa [List.reverse_cons, List.append_assoc, List.singleton_append]
        · rw [dropModifier_append, ← same, ← List.append_assoc, ← split, List.append_assoc]
      · obtain ⟨lead, leads, split⟩ := exists_trimEnd text
        obtain ⟨dropped, gap', sublist, separates', same⟩ :=
          @ih (Text.trimEnd text) _ _ (separates.append_blanks leads)
        refine ⟨dropped, gap', sublist.cons modifier, separates', ?_⟩
        rw [dropModifier_of_not_suffix ends, ← same, ← List.append_assoc, ← split]

/-- Whether modifiers stand in the order in which they are passed over. -/
def Passed (modifiers : List String) : Prop := modifiers.Sublist ["declare", "export"]

theorem exists_withoutModifiers (before : Text) :
    ∃ modifiers gap, Passed modifiers ∧ Separates modifiers gap ∧
      before = withoutModifiers before ++ gap := by
  obtain ⟨trail, trails, split⟩ := exists_trimEnd before
  obtain ⟨dropped, gap, sublist, separates, same⟩ :=
    @exists_passed ["export", "declare"] (Text.trimEnd before) _ _ (.blanks trails)
  rw [List.append_nil] at separates
  refine ⟨dropped.reverse, gap, ?_, separates, ?_⟩
  · exact sublist.reverse
  · rw [withoutModifiers, ← same, ← split]

theorem Separates.exists_last {modifiers : List String} {modifier : String} {gap : Text}
    (separates : Separates (modifiers ++ [modifier]) gap) :
    ∃ front trail, Separates modifiers front ∧ IsBlanks trail ∧
      gap = front ++ (modifier.toList ++ trail) := by
  induction modifiers generalizing gap with
  | nil =>
      cases separates with
      | @word lead trail _ _ leads later =>
          cases later with
          | blanks blank => exact ⟨lead, trail, .blanks leads, blank, rfl⟩
  | cons first modifiers ih =>
      cases separates with
      | @word lead _ _ _ leads later =>
          obtain ⟨front, trail, separates, trails, rfl⟩ := ih later
          refine ⟨_, trail, .word leads separates, trails, ?_⟩
          simp only [List.append_assoc]

theorem dropModifier_of_last {text : Text} {modifier : String} {c d : Char}
    (last : text.getLast? = some c) (solid : Text.isBlank c = false)
    (last' : modifier.toList.getLast? = some d) (other : d ≠ c) :
    dropModifier text modifier = text := by
  have apart : ¬ modifier.toList <:+ text := by
    rintro ⟨front, rfl⟩
    rw [List.getLast?_append, last'] at last
    exact other (Option.some.inj last)
  have trimmed := @trimEnd_append text [] (stops_at last solid) (List.forall_mem_nil _)
  rw [List.append_nil] at trimmed
  rw [dropModifier_of_not_suffix apart, trimmed]

theorem trimEnd_last (kept : Text) {gap : Text} {modifiers : List String} {modifier : String}
    {c : Char}
    (last : modifier.toList.getLast? = some c) (solid : Text.isBlank c = false)
    (separates : Separates (modifiers ++ [modifier]) gap) :
    ∃ front, Separates modifiers front ∧
      Text.trimEnd (kept ++ gap) = kept ++ front ++ modifier.toList ∧
      (kept ++ front ++ modifier.toList).getLast? = some c := by
  obtain ⟨front, trail, separates', trails, rfl⟩ := separates.exists_last
  have last' : (kept ++ front ++ modifier.toList).getLast? = some c := by
    rw [List.getLast?_append, last]
    rfl
  refine ⟨front, separates', ?_, last'⟩
  rw [← List.append_assoc, ← List.append_assoc, trimEnd_append (stops_at last' solid) trails]

section

variable {kept gap : Text} (closed : kept.getLast? = some '/')

include closed

theorem trimEnd_blanks (separates : Separates [] gap) : Text.trimEnd (kept ++ gap) = kept := by
  cases separates with
  | blanks blank => exact trimEnd_append (stops_at closed (by decide)) blank

/-- Blanks and modifiers in their order are passed over, up to what ends otherwise. -/
theorem withoutModifiers_append {modifiers : List String} (passed : Passed modifiers)
    (separates : Separates modifiers gap) : withoutModifiers (kept ++ gap) = kept := by
  have listed : modifiers ∈ ["declare", "export"].sublists := List.mem_sublists.mpr passed
  have solid : Text.isBlank '/' = false := by decide
  have bare : dropModifier kept "declare" = kept :=
    dropModifier_of_last closed solid rfl (by decide)
  rw [withoutModifiers, List.foldl_cons, List.foldl_cons, List.foldl_nil]
  rcases List.mem_cons.mp listed with rfl | listed
  · rw [trimEnd_blanks closed separates, dropModifier_of_last closed solid rfl (by decide), bare]
  rcases List.mem_cons.mp listed with rfl | listed
  · obtain ⟨front, blank, trimmed, last⟩ :=
      @trimEnd_last _ _ [] "declare" 'e' rfl (by decide) separates
    rw [trimmed, dropModifier_of_last last (by decide) rfl (by decide), dropModifier_append,
      trimEnd_blanks closed blank]
  rcases List.mem_cons.mp listed with rfl | listed
  · obtain ⟨front, blank, trimmed, _⟩ :=
      @trimEnd_last _ _ [] "export" 't' rfl (by decide) separates
    rw [trimmed, dropModifier_append, trimEnd_blanks closed blank, bare]
  · cases List.mem_singleton.mp listed
    obtain ⟨front, separates', trimmed, _⟩ :=
      @trimEnd_last _ _ ["declare"] "export" 't' rfl (by decide) separates
    obtain ⟨front', blank, trimmed', _⟩ :=
      @trimEnd_last _ _ [] "declare" 'e' rfl (by decide) separates'
    rw [trimmed, dropModifier_append, trimmed', dropModifier_append, trimEnd_blanks closed blank]

end

theorem withoutModifiers_exportDeclare (kept : Text) {gap : Text}
    (separates : Separates ["export", "declare"] gap) :
    ∃ front, withoutModifiers (kept ++ gap) = front ++ "export".toList := by
  obtain ⟨front, separates', trimmed, last⟩ :=
    @trimEnd_last _ _ ["export"] "declare" 'e' rfl (by decide) separates
  obtain ⟨front', _, trimmed', _⟩ :=
    @trimEnd_last _ _ [] "export" 't' rfl (by decide) separates'
  refine ⟨kept ++ front', ?_⟩
  rw [withoutModifiers, List.foldl_cons, List.foldl_cons, List.foldl_nil, trimmed,
    dropModifier_of_last last (by decide) rfl (by decide), dropModifier_append, trimmed']

/-! ## The attached comment -/

/-- Whether a text is taken for a comment of documentation: it begins with the opening of one, ends
with a closing and has no later opening. -/
structure IsAttached (doc : Text) : Prop where
  opens : "/**".toList <+: doc
  once : ¬ "/**".toList <:+: doc.tail
  closes : "*/".toList <:+ doc

theorem getLast?_of_closes {text : Text} (closes : "*/".toList <:+ text) :
    text.getLast? = some '/' := by
  obtain ⟨front, rfl⟩ := closes
  rw [List.getLast?_append]
  rfl

theorem commentAtEnd?_eq_some_iff (before doc : Text) :
    commentAtEnd? before = some doc ↔
      ∃ front gap modifiers, before = front ++ (doc ++ gap) ∧ Passed modifiers ∧
        Separates modifiers gap ∧ IsAttached doc := by
  have word : "/**".toList ≠ [] := by decide
  constructor
  · intro attached
    rw [commentAtEnd?_eq, Option.ite_none_right_eq_some, List.isSuffixOf_iff_suffix,
      lastFrom?_eq_some_iff word] at attached
    obtain ⟨closed, ends, opens, once⟩ := attached
    obtain ⟨modifiers, gap, passed, separates, split⟩ := exists_withoutModifiers before
    have closes := List.suffix_of_suffix_length_le closed ends
      (Nat.le_of_succ_le opens.length_le)
    obtain ⟨front, whole⟩ := ends
    refine ⟨front, gap, modifiers, ?_, passed, separates, opens, once, closes⟩
    rw [← List.append_assoc, whole, ← split]
  · rintro ⟨front, gap, modifiers, rfl, passed, separates, attached⟩
    have closes : "*/".toList <:+ front ++ doc :=
      attached.closes.trans (List.suffix_append front doc)
    have left : withoutModifiers (front ++ (doc ++ gap)) = front ++ doc := by
      rw [← List.append_assoc]
      exact withoutModifiers_append (getLast?_of_closes closes) passed separates
    rw [commentAtEnd?_eq, left, if_pos (List.isSuffixOf_iff_suffix.mpr closes),
      lastFrom?_eq_some_iff word]
    exact ⟨List.suffix_append front doc, attached.opens, attached.once⟩

section

variable {front comment gap : Text} {modifiers : List String}

/-- Behind a comment, what is attached is looked for in the comment and all that is before it. -/
theorem commentAtEnd?_behind (closes : "*/".toList <:+ comment) (passed : Passed modifiers)
    (separates : Separates modifiers gap) :
    commentAtEnd? (front ++ (comment ++ gap)) =
      Text.lastFrom? "/**".toList (front ++ comment) := by
  have closed := closes.trans (List.suffix_append front comment)
  have left := withoutModifiers_append (getLast?_of_closes closed) passed separates
  rw [commentAtEnd?_eq, ← List.append_assoc, left, if_pos (List.isSuffixOf_iff_suffix.mpr closed)]

theorem commentAtEnd?_exportDeclare (kept : Text)
    (separates : Separates ["export", "declare"] gap) : commentAtEnd? (kept ++ gap) = none := by
  obtain ⟨before, left⟩ := withoutModifiers_exportDeclare kept separates
  have unclosed : ¬ ("*/".toList.isSuffixOf (before ++ "export".toList)) = true := by
    rw [List.isSuffixOf_iff_suffix]
    intro closes
    have last := getLast?_of_closes closes
    rw [List.getLast?_append] at last
    cases last
  rw [commentAtEnd?_eq, left, if_neg unclosed]

theorem opening_infix_append (begins : comment.head? = some '/') :
    "/**".toList <:+: front ++ comment ↔
      "/**".toList <:+: front ∨ "/**".toList <:+: comment := by
  rw [List.infix_append_iff]
  refine ⟨?_, Or.imp_right Or.inl⟩
  rintro (before | inside | ⟨first, second, split, ends, begins'⟩)
  · exact Or.inl before
  · exact Or.inr inside
  cases second with
  | nil =>
      rw [split, List.append_nil]
      exact Or.inl ends.isInfix
  | cons c second =>
      cases first with
      | nil => exact Or.inr (split ▸ begins'.isInfix)
      | cons d first =>
          obtain ⟨rest, rfl⟩ := begins'
          cases begins
          have tail : ['*', '*'] = first ++ '/' :: second := (List.cons.inj split).2
          have slash : '/' ∈ ['*', '*'] := tail ▸ List.mem_append_right first List.mem_cons_self
          exact absurd slash (by decide)

/-- What is attached begins before the comment if the comment has no opening and one is earlier. -/
theorem attached_before_iff (begins : comment.head? = some '/') :
    (∃ doc, Text.lastFrom? "/**".toList (front ++ comment) = some doc ∧
      comment.length < doc.length) ↔
        ¬ "/**".toList <:+: comment ∧ "/**".toList <:+: front := by
  have word : "/**".toList ≠ [] := by decide
  have ends : comment <:+ front ++ comment := List.suffix_append front comment
  constructor
  · rintro ⟨doc, found, longer⟩
    obtain ⟨ends', opens, once⟩ := (lastFrom?_eq_some_iff word _ _).mp found
    have inside : comment <:+ doc.tail := by
      have suffix := List.suffix_of_suffix_length_le ends ends' (Nat.le_of_lt longer)
      cases doc with
      | nil => exact absurd longer (Nat.not_lt_zero _)
      | cons c rest =>
          refine (List.suffix_cons_iff.mp suffix).resolve_left ?_
          rintro rfl
          exact absurd longer (Nat.lt_irrefl _)
    have unopened : ¬ "/**".toList <:+: comment := fun opens =>
      once (opens.trans inside.isInfix)
    have somewhere := (opening_infix_append begins).mp (opens.isInfix.trans ends'.isInfix)
    exact ⟨unopened, somewhere.resolve_right unopened⟩
  · rintro ⟨unopened, earlier⟩
    cases found : Text.lastFrom? "/**".toList (front ++ comment) with
    | none =>
        have never := (lastFrom?_eq_none_iff word _).mp found
        exact absurd ((opening_infix_append begins).mpr (Or.inl earlier)) never
    | some doc =>
        obtain ⟨ends', opens, _⟩ := (lastFrom?_eq_some_iff word _ _).mp found
        refine ⟨doc, rfl, ?_⟩
        by_contra shorter
        have suffix := List.suffix_of_suffix_length_le ends' ends (Nat.le_of_not_lt shorter)
        exact unopened (opens.isInfix.trans suffix.isInfix)

theorem Separates.slash_notMem (separates : Separates modifiers gap)
    (plain : ∀ modifier ∈ modifiers, '/' ∉ modifier.toList) : '/' ∉ gap := by
  induction separates with
  | blanks blank =>
      intro slash
      exact absurd (blank '/' slash) (by decide)
  | word leads later ih =>
      rw [List.forall_mem_cons] at plain
      rw [List.mem_append, List.mem_append, not_or, not_or]
      exact ⟨fun slash => absurd (leads '/' slash) (by decide), plain.1, ih plain.2⟩

theorem Passed.slash_notMem (passed : Passed modifiers) (separates : Separates modifiers gap) :
    '/' ∉ gap := by
  have plain : ∀ modifier ∈ ["declare", "export"], '/' ∉ modifier.toList := by decide
  exact separates.slash_notMem fun modifier held => plain modifier (passed.subset held)

theorem closes_append {left between : Text} (closed : left.getLast? = some '/')
    (ends : "*/".toList <:+ left ++ between) : between = [] ∨ "*/".toList <:+ between := by
  have parted : "*/".toList = ['*'] ++ ['/'] := rfl
  obtain ⟨before, same⟩ := ends
  rcases List.eq_nil_or_concat' between with rfl | ⟨start, c, rfl⟩
  · exact Or.inl rfl
  rw [parted, ← List.append_assoc, ← List.append_assoc] at same
  obtain ⟨same, slash⟩ := List.append_inj' same rfl
  rcases List.eq_nil_or_concat' start with rfl | ⟨start, d, rfl⟩
  · rw [List.append_nil] at same
    rw [← same, List.getLast?_concat] at closed
    cases closed
  · rw [← List.append_assoc] at same
    obtain ⟨_, star⟩ := List.append_inj' same rfl
    rw [← slash, ← star, List.append_assoc]
    exact Or.inr (List.suffix_append start _)

/-- If something else stands behind a comment, and no closing in it, nothing is attached. -/
theorem commentAtEnd?_apart {behind : Text} (closes : "*/".toList <:+ comment)
    (unclosed : ¬ "*/".toList <:+: behind)
    (apart : ∀ modifiers, Passed modifiers → ¬ Separates modifiers behind) :
    commentAtEnd? (front ++ (comment ++ behind)) = none := by
  rw [Option.eq_none_iff_forall_ne_some]
  intro doc attached
  obtain ⟨before, gap, modifiers, split, passed, separates, attached⟩ :=
    (commentAtEnd?_eq_some_iff _ _).mp attached
  have closed := getLast?_of_closes (closes.trans (List.suffix_append front comment))
  have ends := attached.closes.trans (List.suffix_append before doc)
  rw [← List.append_assoc, ← List.append_assoc, List.append_eq_append_iff] at split
  rcases split with ⟨between, whole, rfl⟩ | ⟨between, whole, rfl⟩
  · -- The closing of what is attached would stand behind the comment.
    rw [whole] at ends
    rcases closes_append closed ends with rfl | inside
    · exact apart modifiers passed separates
    · exact unclosed (inside.isInfix.trans (List.prefix_append between gap).isInfix)
  · -- What is passed over would hold the end of the comment.
    rcases List.eq_nil_or_concat' between with rfl | ⟨start, last, rfl⟩
    · exact apart modifiers passed separates
    · rw [whole, ← List.append_assoc, List.getLast?_concat] at closed
      cases closed
      exact passed.slash_notMem separates (by simp)

end

end StrategyDesk.Script
