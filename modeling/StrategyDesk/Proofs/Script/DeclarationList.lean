import Mathlib.Data.List.Chain
import StrategyDesk.Proofs.Script.Declaration

/-!
# Declarations one behind the other

Of a list of declarations the search finds the opening of each one, and then what opens in the rest
of it: in the block of a namespace, but also in a literal. The two words `const enum` are no opening
of an enumeration: what is found is a constant with the name `enum`, and the name of the enumeration
stands in the rest of it.
-/

set_option autoImplicit false

namespace StrategyDesk.Script

section

variable {α : Type} {admits : Option Char → Bool} {read? : Cursor → Option (α × Cursor)}

/-- What is found of a form does not depend on where the text begins, if what is read does not. -/
theorem map_occurrencesFrom_shift {β : Type} {f : α → β}
    (same : ∀ position position' text,
      (read? ⟨position, text⟩).map (fun read => (f read.1, read.2.position - position)) =
        (read? ⟨position', text⟩).map fun read => (f read.1, read.2.position - position'))
    (skip position position' : Nat) (before : Option Char) (text : Text) :
    (occurrencesFrom admits read? skip position before text).map f =
      (occurrencesFrom admits read? skip position' before text).map f := by
  induction text generalizing skip position position' before with
  | nil => cases skip <;> rfl
  | cons c text ih =>
      cases skip with
      | succ skip => exact ih skip (position + 1) (position' + 1) (some c)
      | zero =>
          have reads := same position position' (c :: text)
          by_cases admitted : admits before = true
          · cases read : read? ⟨position, c :: text⟩ with
            | none =>
                rw [read, Option.map_none, eq_comm, Option.map_eq_none_iff] at reads
                rw [occurrencesFrom_cons_of_none fun _ => read,
                  occurrencesFrom_cons_of_none fun _ => reads]
                exact ih 0 _ _ _
            | some result =>
                rw [read, Option.map_some, eq_comm, Option.map_eq_some_iff] at reads
                obtain ⟨result', read', alike⟩ := reads
                obtain ⟨found, length⟩ := Prod.mk.inj alike
                rw [occurrencesFrom_cons_of_some admitted read,
                  occurrencesFrom_cons_of_some admitted read', List.map_cons, List.map_cons, found,
                  length]
                exact congrArg _ (ih _ _ _ _)
          · rw [occurrencesFrom_cons_of_none fun yes => absurd yes admitted,
              occurrencesFrom_cons_of_none fun yes => absurd yes admitted]
            exact ih 0 _ _ _

end

/-! ## Openings -/

namespace DeclarationHead

theorem read?_within {position : Nat} {text : Text} {head : DeclarationHead} {after : Cursor}
    (found : read? ⟨position, text⟩ = some (head, after)) :
    after.position ≤ position + text.length := by
  obtain ⟨keyword, blanks, name, rest, apart, named, ends, rfl⟩ := read?_parts found
  rw [read?_append keyword apart named ends] at found
  cases found
  simp only [List.length_append]
  omega

def namesIn (text : Text) : List Text := (all text).map fun head => head.name.text

theorem names_headsFrom (position : Nat) (before : Option Char) {text : Text}
    (begins : ∀ c ∈ text.head?, Text.isNameChar c = false) :
    (headsFrom position before text).map (fun head => head.name.text) = namesIn text := by
  rw [headsFrom, occurrencesFrom_unread (read?_unworded begins) before none, namesIn]
  refine map_occurrencesFrom_shift ?_ 0 position 0 none text
  -- What is read at one position is read at every other one, so it suffices to go one way.
  intro position position' text
  ext result
  have onward {position position' : Nat} (read : result ∈ (read? ⟨position, text⟩).map
      fun read => (read.1.name.text, read.2.position - position)) :
      result ∈ (read? ⟨position', text⟩).map
        fun read => (read.1.name.text, read.2.position - position') := by
    obtain ⟨⟨head, after⟩, found, rfl⟩ := Option.map_eq_some_iff.mp read
    obtain ⟨keyword, blanks, name, rest, apart, named, ends, rfl⟩ := read?_parts found
    rw [read?_append keyword apart named ends] at found ⊢
    cases found
    simp only [Option.map_some, Option.mem_def, Option.some.injEq, Prod.mk.injEq, true_and]
    omega
  exact ⟨onward, onward⟩

/-- Whether no opening that begins in a text goes on behind it: the text ends in no name, and in no
keyword with blanks behind it. -/
structure Finished (text : Text) : Prop where
  last : ∃ c ∈ text.getLast?, Text.isNameChar c = false
  unopened : ∀ (front : Text) (keyword : Keyword) (blanks : Text),
    text = front ++ (keyword.text.toList ++ blanks) → SomeBlanks blanks →
      wordStart front.getLast? = false

theorem Finished.of_solid {text : Text} {c : Char} (last : text.getLast? = some c)
    (unnamed : Text.isNameChar c = false) (solid : Text.isBlank c = false) : Finished text where
  last := ⟨c, last, unnamed⟩
  unopened front keyword blanks split apart := by
    rw [split, ← List.append_assoc, List.getLast?_append_of_ne_nil _ apart.filled] at last
    have blank := apart.blank c (List.mem_of_getLast? last)
    rw [solid] at blank
    cases blank

theorem Finished.filled {text : Text} (finished : Finished text) : text ≠ [] := by
  obtain ⟨c, last, _⟩ := finished.last
  rintro rfl
  cases last

theorem Finished.admits {text : Text} (finished : Finished text) :
    wordStart text.getLast? = true := by
  obtain ⟨c, last, stops⟩ := finished.last
  rw [Text.isNameChar, Bool.or_eq_false_iff] at stops
  rw [Option.mem_def.mp last, wordStart, stops.1]
  rfl

theorem Finished.stopped {first taken left : Text} (finished : Finished (first ++ (taken ++ left)))
    (within : ∀ c ∈ taken, Text.isNameChar c = true) (filled : taken ≠ []) : left ≠ [] := by
  rintro rfl
  obtain ⟨c, last, stops⟩ := finished.last
  rw [List.append_nil, List.getLast?_append_of_ne_nil _ filled] at last
  rw [within c (List.mem_of_getLast? last)] at stops
  cases stops

theorem Finished.opened {first left : Text} {keyword : Keyword}
    (finished : Finished (first ++ (keyword.text.toList ++ left)))
    (admitted : wordStart first.getLast? = true) : ¬ IsBlanks left := by
  intro blank
  obtain ⟨c, later, word, _⟩ := keyword.isName.head
  have filled : left ≠ [] :=
    finished.stopped keyword.isName.2 (word ▸ List.cons_ne_nil c later)
  rw [finished.unopened first keyword left rfl ⟨filled, blank⟩] at admitted
  cases admitted

/-- An opening that begins in a finished text ends in front of the last character of it. -/
theorem Finished.reaches {first text rest blanks name left : Text} {keyword : Keyword}
    (finished : Finished (first ++ text)) (filled : text ≠ [])
    (admitted : wordStart first.getLast? = true) (apart : SomeBlanks blanks) (named : IsName name)
    (split : text ++ rest = keyword.text.toList ++ (blanks ++ (name ++ left))) :
    ∃ behind, behind ≠ [] ∧ left = behind ++ rest ∧
      text = keyword.text.toList ++ (blanks ++ (name ++ behind)) := by
  rcases List.append_eq_append_iff.mp split with ⟨more, word, _⟩ | ⟨between, rfl, split'⟩
  · rw [← List.append_nil text] at finished
    have within : ∀ c ∈ text, Text.isNameChar c = true := fun c inside =>
      keyword.isName.2 c (word ▸ List.mem_append_left more inside)
    exact absurd rfl (finished.stopped within filled)
  rcases List.append_eq_append_iff.mp split'.symm with ⟨more, rfl, _⟩ | ⟨begun, rfl, split''⟩
  · exact absurd (fun c inside => apart.blank c (List.mem_append_left more inside))
      (finished.opened admitted)
  rcases List.append_eq_append_iff.mp split''.symm with ⟨more, rfl, _⟩ | ⟨behind, rfl, rfl⟩
  · have begun_filled : begun ≠ [] := by
      rintro rfl
      rw [List.append_nil] at finished
      exact finished.opened admitted apart.blank
    have within : ∀ c ∈ begun, Text.isNameChar c = true := fun c inside =>
      named.2 c (List.mem_append_left more inside)
    rw [← List.append_nil begun, ← List.append_assoc, ← List.append_assoc] at finished
    exact absurd rfl (finished.stopped within begun_filled)
  · have name_filled : name ≠ [] := by
      rintro rfl
      obtain ⟨_, _, word, _⟩ := named.head
      cases word
    refine ⟨behind, ?_, rfl, rfl⟩
    rw [← List.append_assoc, ← List.append_assoc] at finished
    exact finished.stopped named.2 name_filled

/-- Where a finished text begins with a word of its own, the same is read with more text behind. -/
theorem read?_finished {first text : Text} (finished : Finished (first ++ text))
    (filled : text ≠ [])
    (opened : (∃ c ∈ text.head?, Text.isNameChar c = true) → wordStart first.getLast? = true)
    (position : Nat) (rest : Text) :
    read? ⟨position, text ++ rest⟩ =
      (read? ⟨position, text⟩).map fun (found, after) => (found, after.followedBy rest) := by
  have admitted {keyword : Keyword} {more behind : Text}
      (split : text ++ more = keyword.text.toList ++ behind) :
      wordStart first.getLast? = true := by
    obtain ⟨c, later, word, starts⟩ := keyword.isName.head
    refine opened ⟨c, ?_, Text.isNameChar_of_isNameStart starts⟩
    rw [← List.head?_append_of_ne_nil text filled, split, word]
    rfl
  cases read : read? ⟨position, text ++ rest⟩ with
  | some result =>
      obtain ⟨head, after⟩ := result
      obtain ⟨keyword, blanks, name, left, apart, named, ends, split⟩ := read?_parts read
      obtain ⟨behind, more, rfl, rfl⟩ :=
        finished.reaches filled (admitted split) apart named split
      rw [split, read?_append keyword apart named ends] at read
      rw [List.head?_append_of_ne_nil behind more] at ends
      rw [read?_append keyword apart named ends]
      cases read
      rfl
  | none =>
      cases shorter : read? ⟨position, text⟩ with
      | none => rfl
      | some result =>
          obtain ⟨head, after⟩ := result
          obtain ⟨keyword, blanks, name, left, apart, named, ends, split⟩ := read?_parts shorter
          rw [← List.append_nil text] at split
          obtain ⟨behind, more, left_eq, rfl⟩ :=
            finished.reaches filled (admitted split) apart named split
          rw [List.append_nil] at left_eq
          subst left_eq
          have ends' : ∀ c ∈ (left ++ rest).head?, Text.isNameChar c = false := by
            rwa [List.head?_append_of_ne_nil left more]
          simp only [List.append_assoc] at read
          rw [read?_append keyword apart named ends'] at read
          cases read

theorem headsFrom_finished {part : Text} (finished : Finished part)
    (begins : ∀ c ∈ part.head?, Text.isNameChar c = false) (position : Nat)
    (before : Option Char) (rest : Text) :
    headsFrom position before (part ++ rest) =
      headsFrom position before part ++
        headsFrom (position + part.length) part.getLast? rest := by
  have last : part.getLast?.or before = part.getLast? := by
    obtain ⟨c, last, _⟩ := finished.last
    rw [Option.mem_def.mp last]
    rfl
  rw [← last]
  refine occurrencesFrom_parted ?_ read?_within (Nat.zero_le _)
  rintro first c later rfl admitted
  refine read?_finished finished (List.cons_ne_nil c later) ?_ _ rest
  rintro ⟨d, here, continues⟩
  cases here
  cases first with
  | nil =>
      rw [begins c rfl] at continues
      cases continues
  | cons d first =>
      rw [List.getLast?_cons] at admitted ⊢
      exact admitted

end DeclarationHead

/-! ## Declarations as they are written -/

/-- The words that may stand before a declaration, with the blanks behind each. -/
inductive IsModifiers : Text → Prop where
  | none : IsModifiers []
  | word {word blanks rest : Text} (modifier : word = "export".toList ∨ word = "declare".toList)
      (apart : SomeBlanks blanks) (later : IsModifiers rest) :
      IsModifiers (word ++ (blanks ++ rest))

/-- A declaration with one keyword, as it is written in a masked block: modifiers, the keyword,
blanks, the declared name, and what stands behind that, up to the next declaration. -/
structure PlainDeclaration where
  modifiers : Text
  keyword : Keyword
  blanks : Text
  name : Text
  tail : Text

namespace PlainDeclaration

def text (plain : PlainDeclaration) : Text :=
  plain.modifiers ++ (plain.keyword.text.toList ++ (plain.blanks ++ (plain.name ++ plain.tail)))

def textOf (list : List PlainDeclaration) : Text := list.flatMap text

structure WellFormed (plain : PlainDeclaration) : Prop where
  modified : IsModifiers plain.modifiers
  apart : SomeBlanks plain.blanks
  named : IsName plain.name
  ends : ∀ c ∈ plain.tail.head?, Text.isNameChar c = false

def exports (plain : PlainDeclaration) : List Text :=
  plain.name :: DeclarationHead.namesIn plain.tail

/-- Whether declarations stand one behind the other such that none but the last one goes on where
the next one begins. -/
structure Listed (list : List PlainDeclaration) : Prop where
  wellFormed : ∀ plain ∈ list, plain.WellFormed
  finished : list.IsChain fun plain _ => DeclarationHead.Finished plain.tail

def headAt (position : Nat) (plain : PlainDeclaration) : DeclarationHead :=
  let start := position + plain.modifiers.length
  ⟨plain.keyword, start,
    ⟨start + plain.keyword.text.toList.length + plain.blanks.length, plain.name⟩⟩

end PlainDeclaration

/-! ## What is found of them -/

namespace DeclarationHead

theorem headsFrom_blanks {blanks : Text} (apart : SomeBlanks blanks) (position : Nat)
    (before : Option Char) (rest : Text) :
    ∃ last, wordStart last = true ∧
      headsFrom position before (blanks ++ rest) = headsFrom (position + blanks.length) last rest := by
  have unworded : blanks.all (fun c => !Text.isNameChar c) = true := by
    rw [List.all_eq_true]
    intro c inside
    rw [Text.isNameChar_of_isBlank (apart.blank c inside)]
    rfl
  refine ⟨_, ?_, headsFrom_unworded unworded rest⟩
  have blank := apart.blank _ (List.getLast_mem apart.filled)
  have other := Text.isNameChar_of_isBlank blank
  rw [List.getLast?_eq_some_getLast apart.filled, Option.some_or, wordStart]
  rw [Text.isNameChar, Bool.or_eq_false_iff] at other
  rw [other.1]
  rfl

theorem headsFrom_modifiers {modifiers : Text} (modified : IsModifiers modifiers) (position : Nat)
    {before : Option Char} (admitted : wordStart before = true) (rest : Text) :
    ∃ last, wordStart last = true ∧ headsFrom position before (modifiers ++ rest) =
      headsFrom (position + modifiers.length) last rest := by
  induction modified generalizing position before with
  | none => exact ⟨before, admitted, rfl⟩
  | @word word blanks later modifier apart following ih =>
      have undeclared : ∀ tail, tail <:+ word → ∀ keyword : Keyword, tail ≠ keyword.text.toList := by
        rcases modifier with rfl | rfl
        · exact undeclared_of_ends (by decide +kernel)
        · exact undeclared_of_ends (by decide +kernel)
      have within : ∀ c ∈ word, Text.isNameChar c = true := by
        rcases modifier with rfl | rfl
        · exact List.all_eq_true.mp (by decide +kernel)
        · exact List.all_eq_true.mp (by decide +kernel)
      have stops : ∀ c ∈ (blanks ++ (later ++ rest)).head?, Text.isNameChar c = false := by
        rw [List.head?_append_of_ne_nil blanks apart.filled]
        intro c first
        exact Text.isNameChar_of_isBlank (apart.blank c (List.mem_of_mem_head? first))
      obtain ⟨last, starts, passed⟩ := headsFrom_blanks apart (position + word.length)
        (word.getLast?.or before) (later ++ rest)
      obtain ⟨last', starts', passed'⟩ := ih (position + word.length + blanks.length) starts
      refine ⟨last', starts', ?_⟩
      rw [List.append_assoc, List.append_assoc, headsFrom_word within stops undeclared,
        passed, passed', List.length_append, List.length_append, ← Nat.add_assoc, ← Nat.add_assoc]

end DeclarationHead

namespace PlainDeclaration

open DeclarationHead

theorem headsFrom_text {plain : PlainDeclaration} (formed : plain.WellFormed) (position : Nat)
    {before : Option Char} (admitted : wordStart before = true) {rest : Text}
    (ends : ∀ c ∈ (plain.tail ++ rest).head?, Text.isNameChar c = false) :
    headsFrom position before (plain.text ++ rest) =
      headAt position plain ::
        headsFrom (headAt position plain).name.stop plain.name.getLast? (plain.tail ++ rest) := by
  obtain ⟨last, starts, passed⟩ := headsFrom_modifiers formed.modified position admitted
    (plain.keyword.text.toList ++ (plain.blanks ++ (plain.name ++ (plain.tail ++ rest))))
  have split : plain.text ++ rest = plain.modifiers ++ (plain.keyword.text.toList ++
      (plain.blanks ++ (plain.name ++ (plain.tail ++ rest)))) := by
    simp only [text, List.append_assoc]
  rw [split, passed, headsFrom_head starts plain.keyword formed.apart formed.named ends]
  rfl

theorem stop_headAt (position : Nat) (plain : PlainDeclaration) :
    (headAt position plain).name.stop + plain.tail.length = position + plain.text.length := by
  simp only [headAt, Span.stop, text, List.length_append]
  omega

theorem drop_text (before : Text) (plain : PlainDeclaration) (rest : Text) :
    (before ++ (plain.text ++ rest)).drop (plain.headAt before.length).name.stop =
      plain.tail ++ rest := by
  have split : before ++ (plain.text ++ rest) = (before ++ (plain.modifiers ++
      (plain.keyword.text.toList ++ (plain.blanks ++ plain.name)))) ++ (plain.tail ++ rest) := by
    simp only [text, List.append_assoc]
  have stop : (plain.headAt before.length).name.stop = (before ++ (plain.modifiers ++
      (plain.keyword.text.toList ++ (plain.blanks ++ plain.name)))).length := by
    simp only [headAt, Span.stop, List.length_append]
    omega
  rw [split, stop, List.drop_left]

/-- What is found in the rest of the declaration comes between its opening and what is found behind
it. -/
theorem headsFrom_finished_text {plain : PlainDeclaration} (formed : plain.WellFormed)
    (finished : Finished plain.tail) (position : Nat) {before : Option Char}
    (admitted : wordStart before = true) (rest : Text) :
    headsFrom position before (plain.text ++ rest) =
      headAt position plain ::
        (headsFrom (headAt position plain).name.stop plain.name.getLast? plain.tail ++
          headsFrom (position + plain.text.length) plain.tail.getLast? rest) := by
  have ends : ∀ c ∈ (plain.tail ++ rest).head?, Text.isNameChar c = false := by
    rw [List.head?_append_of_ne_nil plain.tail finished.filled]
    exact formed.ends
  rw [headsFrom_text formed position admitted ends, headsFrom_finished finished formed.ends,
    stop_headAt]

theorem Listed.tail {plain : PlainDeclaration} {list : List PlainDeclaration}
    (listed : Listed (plain :: list)) : Listed list :=
  ⟨fun other inside => listed.wellFormed other (List.mem_cons_of_mem plain inside),
    listed.finished.tail⟩

theorem Listed.ends {plain : PlainDeclaration} {list : List PlainDeclaration}
    (listed : Listed (plain :: list)) :
    ∀ c ∈ (plain.tail ++ textOf list).head?, Text.isNameChar c = false := by
  have ends := (listed.wellFormed plain List.mem_cons_self).ends
  cases list with
  | nil => rwa [textOf, List.flatMap_nil, List.append_nil]
  | cons next list =>
      have finished : Finished plain.tail := (List.isChain_cons_cons.mp listed.finished).1
      rwa [List.head?_append_of_ne_nil plain.tail finished.filled]

/-- The names that are found in a list of declarations are those of each one, in order. -/
theorem names_textOf {list : List PlainDeclaration} (listed : Listed list) (position : Nat)
    {before : Option Char} (admitted : wordStart before = true) :
    (headsFrom position before (textOf list)).map (fun head => head.name.text) =
      list.flatMap exports := by
  induction list generalizing position before with
  | nil => rfl
  | cons plain list ih =>
      have formed := listed.wellFormed plain List.mem_cons_self
      have names := names_headsFrom (headAt position plain).name.stop plain.name.getLast? formed.ends
      rw [textOf, List.flatMap_cons, List.flatMap_cons]
      -- The last declaration need not be finished, as nothing comes behind it.
      cases list with
      | nil =>
          have opening := headsFrom_text formed position admitted listed.ends
          rw [textOf, List.flatMap_nil, List.append_nil, List.append_nil] at opening
          rw [List.flatMap_nil, List.flatMap_nil, List.append_nil, List.append_nil, opening,
            List.map_cons, names]
          rfl
      | cons next list =>
          have finished : Finished plain.tail := (List.isChain_cons_cons.mp listed.finished).1
          have later := ih listed.tail (position + plain.text.length) finished.admits
          rw [headsFrom_finished_text formed finished position admitted, List.map_cons,
            List.map_append, names]
          exact congrArg _ (congrArg _ later)

/-- The first declaration of a name is found where it stands, if the name is found in none before
it. -/
theorem find?_textOf {front list : List PlainDeclaration} {plain : PlainDeclaration}
    (listed : Listed (front ++ plain :: list)) (first : plain.name ∉ front.flatMap exports)
    (position : Nat) {before : Option Char} (admitted : wordStart before = true) :
    (headsFrom position before (textOf (front ++ plain :: list))).find?
        (fun head => head.name.text == plain.name) =
      some (headAt (position + (textOf front).length) plain) := by
  induction front generalizing position before with
  | nil =>
      have formed := listed.wellFormed plain List.mem_cons_self
      rw [List.nil_append, textOf, List.flatMap_cons]
      have opening := headsFrom_text formed position admitted listed.ends
      rw [textOf] at opening
      have named : ((headAt position plain).name.text == plain.name) = true :=
        beq_self_eq_true plain.name
      rw [opening]
      exact List.find?_cons_of_pos named
  | cons other front ih =>
      have formed := listed.wellFormed other List.mem_cons_self
      have finished : Finished other.tail := by
        cases front with
        | nil => exact (List.isChain_cons_cons.mp listed.finished).1
        | cons next front => exact (List.isChain_cons_cons.mp listed.finished).1
      rw [List.flatMap_cons, List.mem_append, not_or] at first
      have later := ih listed.tail first.2 (position + other.text.length) finished.admits
      have names := names_headsFrom (headAt position other).name.stop other.name.getLast? formed.ends
      have unfound : ∀ head ∈ headAt position other ::
          headsFrom (headAt position other).name.stop other.name.getLast? other.tail,
          ¬ (head.name.text == plain.name) = true := by
        intro head inside same
        apply first.1
        rw [exports, ← names, ← beq_iff_eq.mp same]
        exact List.mem_map_of_mem (f := fun head : DeclarationHead => head.name.text) inside
      have length : (textOf (other :: front)).length = other.text.length + (textOf front).length := by
        rw [textOf, List.flatMap_cons, List.length_append]
        rfl
      rw [List.cons_append, textOf, List.flatMap_cons,
        headsFrom_finished_text formed finished position admitted, ← List.cons_append,
        List.find?_append, List.find?_eq_none.mpr unfound, Option.none_or, length, ← Nat.add_assoc]
      exact later

end PlainDeclaration

/-! ## Constant enumerations -/

/-- A declaration as it is written: with one keyword, or with the two words `const enum`. -/
inductive WrittenDeclaration where
  | plain (declaration : PlainDeclaration)
  | constEnum (modifiers between blanks name tail : Text)

namespace WrittenDeclaration

def text : WrittenDeclaration → Text
  | plain declaration => declaration.text
  | constEnum modifiers between blanks name tail =>
      modifiers ++ ("const".toList ++ (between ++ ("enum".toList ++ (blanks ++ (name ++ tail)))))

def WellFormed : WrittenDeclaration → Prop
  | plain declaration => declaration.WellFormed
  | constEnum modifiers between blanks name tail =>
      IsModifiers modifiers ∧ SomeBlanks between ∧ SomeBlanks blanks ∧ IsName name ∧
        ∀ c ∈ tail.head?, Text.isNameChar c = false

/-- The declaration that is found in its place: of `const enum` the second word is taken for the
name of a constant. -/
def found : WrittenDeclaration → PlainDeclaration
  | plain declaration => declaration
  | constEnum modifiers between blanks name tail =>
      ⟨modifiers, .constDecl, between, "enum".toList, blanks ++ (name ++ tail)⟩

theorem text_found (written : WrittenDeclaration) : written.found.text = written.text := by
  cases written <;> rfl

theorem WellFormed.found {written : WrittenDeclaration} (formed : written.WellFormed) :
    written.found.WellFormed := by
  cases written with
  | plain declaration => exact formed
  | constEnum modifiers between blanks name tail =>
      obtain ⟨modified, apart, apart', named, _⟩ := formed
      refine ⟨modified, apart, Keyword.isName .enumDecl, ?_⟩
      rw [WrittenDeclaration.found, List.head?_append_of_ne_nil blanks apart'.filled]
      intro c first
      exact Text.isNameChar_of_isBlank (apart'.blank c (List.mem_of_mem_head? first))

end WrittenDeclaration

end StrategyDesk.Script
