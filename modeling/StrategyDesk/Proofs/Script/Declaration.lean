import StrategyDesk.Proofs.Script.Scanning
import StrategyDesk.Proofs.Script.Trimmed
import StrategyDesk.Script.Block

/-!
# Declarations, blocks and enumerations

The opening of a declaration is a keyword, blanks and a name. A run of name characters opens a
declaration only if it is a keyword, and behind the name the search goes on. As the body of an
enumeration a list of words between commas has these words for its members.
-/

set_option autoImplicit false

namespace StrategyDesk.Script

theorem someBlanks_space : SomeBlanks [' '] := ⟨by decide, List.all_eq_true.mp (by decide)⟩

/-! ## Openings of declarations -/

theorem Keyword.isName (keyword : Keyword) : IsName keyword.text.toList := by
  have ascii : ∀ keyword ∈ Keyword.all, IsAsciiName keyword.text.toList := by decide +kernel
  have listed : keyword ∈ Keyword.all := by cases keyword <;> decide
  exact (ascii keyword listed).isName

theorem Keyword.text_injective {first second : Keyword}
    (same : first.text.toList = second.text.toList) : first = second := by
  have apart : ∀ first ∈ Keyword.all, ∀ second ∈ Keyword.all,
      first.text.toList = second.text.toList → first = second := by decide +kernel
  have listed (keyword : Keyword) : keyword ∈ Keyword.all := by cases keyword <;> decide
  exact apart first (listed first) second (listed second) same

theorem undeclared_of_ends {word : Text}
    (none_ends : Keyword.all.all (fun keyword => !keyword.text.toList.isSuffixOf word) = true) :
    ∀ tail, tail <:+ word → ∀ keyword : Keyword, tail ≠ keyword.text.toList := by
  rintro _ ends keyword rfl
  have listed : keyword ∈ Keyword.all := by cases keyword <;> decide
  have here := List.all_eq_true.mp none_ends keyword listed
  rw [List.isSuffixOf_iff_suffix.mpr ends] at here
  cases here

namespace DeclarationHead

theorem readWith?_sound {position : Nat} {text : Text} {keyword : Keyword}
    {head : DeclarationHead} {after : Cursor}
    (found : readWith? ⟨position, text⟩ keyword = some (head, after)) :
    ∃ blanks name rest, SomeBlanks blanks ∧ IsName name ∧
      (∀ c ∈ rest.head?, Text.isNameChar c = false) ∧
      text = keyword.text.toList ++ (blanks ++ (name ++ rest)) := by
  simp only [readWith?, Option.bind_eq_bind, Option.bind_eq_some_iff, Option.pure_def] at found
  obtain ⟨_, word, _, gap, ⟨_, _⟩, naming, _⟩ := found
  obtain ⟨_, rfl, rfl⟩ := Cursor.word?_sound word
  obtain ⟨blanks, _, filled, run, rfl, rfl⟩ := Cursor.blanks?_sound gap
  obtain ⟨name, rest, named, whole, rfl, _, _⟩ := Cursor.name?_sound naming
  exact ⟨blanks, name, rest, ⟨filled, run.within⟩, named, whole.stops, rfl⟩

theorem read?_parts {position : Nat} {text : Text} {head : DeclarationHead} {after : Cursor}
    (found : read? ⟨position, text⟩ = some (head, after)) :
    ∃ keyword : Keyword, ∃ blanks name rest, SomeBlanks blanks ∧ IsName name ∧
      (∀ c ∈ rest.head?, Text.isNameChar c = false) ∧
      text = keyword.text.toList ++ (blanks ++ (name ++ rest)) := by
  obtain ⟨keyword, _, read⟩ := List.exists_of_findSome?_eq_some found
  exact ⟨keyword, readWith?_sound read⟩

/-- A keyword that is read is the whole run of name characters at the front of the text. -/
theorem run_of_readWith? {position : Nat} {taken rest : Text} {keyword : Keyword}
    {result : DeclarationHead × Cursor} (run : LongestRun Text.isNameChar taken rest)
    (found : readWith? ⟨position, taken ++ rest⟩ keyword = some result) :
    taken = keyword.text.toList := by
  obtain ⟨blanks, name, later, apart, _, _, split⟩ := readWith?_sound found
  have run' := longestRun_name keyword.isName apart (name ++ later)
  rw [← run.takeWhile_eq, split, run'.takeWhile_eq]

theorem read?_of_run {position : Nat} {taken rest : Text}
    (run : LongestRun Text.isNameChar taken rest)
    (undeclared : ∀ keyword : Keyword, taken ≠ keyword.text.toList) :
    read? ⟨position, taken ++ rest⟩ = none := by
  rw [read?, List.findSome?_eq_none_iff]
  intro keyword _
  cases found : readWith? ⟨position, taken ++ rest⟩ keyword with
  | none => rfl
  | some result => exact absurd (run_of_readWith? run found) (undeclared keyword)

theorem read?_unworded {position : Nat} {text : Text}
    (begins : ∀ c ∈ text.head?, Text.isNameChar c = false) : read? ⟨position, text⟩ = none := by
  have run : LongestRun Text.isNameChar [] text := ⟨List.forall_mem_nil _, begins⟩
  refine read?_of_run run fun keyword empty => ?_
  obtain ⟨_, _, filled, _⟩ := keyword.isName.head
  rw [filled] at empty
  cases empty

theorem read?_append {position : Nat} (keyword : Keyword) {blanks name rest : Text}
    (apart : SomeBlanks blanks) (named : IsName name)
    (ends : ∀ c ∈ rest.head?, Text.isNameChar c = false) :
    read? ⟨position, keyword.text.toList ++ (blanks ++ (name ++ rest))⟩ =
      some (⟨keyword, position, ⟨position + keyword.text.toList.length + blanks.length, name⟩⟩,
        ⟨position + keyword.text.toList.length + blanks.length + name.length, rest⟩) := by
  have run := longestRun_name keyword.isName apart (name ++ rest)
  have here : readWith? ⟨position, keyword.text.toList ++ (blanks ++ (name ++ rest))⟩ keyword =
      some (⟨keyword, position, ⟨position + keyword.text.toList.length + blanks.length, name⟩⟩,
        ⟨position + keyword.text.toList.length + blanks.length + name.length, rest⟩) := by
    simp only [readWith?, Option.bind_eq_bind, Option.bind_some, Cursor.word?_append,
      Cursor.blanks?_append apart.1 (longestRun_blanks_name apart.2 named rest),
      Cursor.name?_append named ⟨named.2, ends⟩, Option.pure_def]
  rw [read?]
  cases found : Keyword.all.findSome? (readWith?
      ⟨position, keyword.text.toList ++ (blanks ++ (name ++ rest))⟩) with
  | none =>
      have unread := List.findSome?_eq_none_iff.mp found keyword (by cases keyword <;> decide)
      rw [here] at unread
      cases unread
  | some result =>
      obtain ⟨other, _, read⟩ := List.exists_of_findSome?_eq_some found
      cases Keyword.text_injective (run_of_readWith? run read)
      rw [← here, read]

/-- The declarations of a text that begins at a position, behind some character. -/
def headsFrom (position : Nat) (before : Option Char) (text : Text) : List DeclarationHead :=
  occurrencesFrom wordStart read? 0 position before text

theorem headsFrom_unworded {position : Nat} {before : Option Char} {part : Text}
    (unworded : part.all (fun c => !Text.isNameChar c) = true) (rest : Text) :
    headsFrom position before (part ++ rest) =
      headsFrom (position + part.length) (part.getLast?.or before) rest := by
  refine occurrencesFrom_unread_part ?_
  intro first c later split
  have inside : c ∈ part := by
    rw [split]
    exact List.mem_append_right first List.mem_cons_self
  refine read?_unworded ?_
  simpa using List.all_eq_true.mp unworded c inside

theorem headsFrom_word {position : Nat} {before : Option Char} {word rest : Text}
    (within : ∀ c ∈ word, Text.isNameChar c = true)
    (ends : ∀ c ∈ rest.head?, Text.isNameChar c = false)
    (undeclared : ∀ tail, tail <:+ word → ∀ keyword : Keyword, tail ≠ keyword.text.toList) :
    headsFrom position before (word ++ rest) =
      headsFrom (position + word.length) (word.getLast?.or before) rest := by
  refine occurrencesFrom_unread_part ?_
  intro first c later split
  have run : LongestRun Text.isNameChar (c :: later) rest := by
    refine ⟨fun d inside => within d ?_, ends⟩
    rw [split]
    exact List.mem_append_right first inside
  exact read?_of_run run (undeclared (c :: later) ⟨first, split.symm⟩)

/-- Where a declaration begins at the front of a text, the search goes on behind its name. -/
theorem headsFrom_head {position : Nat} {before : Option Char} (admitted : wordStart before = true)
    (keyword : Keyword) {blanks name rest : Text} (apart : SomeBlanks blanks) (named : IsName name)
    (ends : ∀ c ∈ rest.head?, Text.isNameChar c = false) :
    headsFrom position before (keyword.text.toList ++ (blanks ++ (name ++ rest))) =
      ⟨keyword, position, ⟨position + keyword.text.toList.length + blanks.length, name⟩⟩ ::
        headsFrom (position + keyword.text.toList.length + blanks.length + name.length)
          name.getLast? rest := by
  have taken : keyword.text.toList ++ (blanks ++ (name ++ rest)) =
      (keyword.text.toList ++ (blanks ++ name)) ++ rest := by
    rw [List.append_assoc, List.append_assoc]
  have stop : position + keyword.text.toList.length + blanks.length + name.length =
      position + (keyword.text.toList ++ (blanks ++ name)).length := by
    rw [List.length_append, List.length_append]
    omega
  have last : (keyword.text.toList ++ (blanks ++ name)).getLast? = name.getLast? := by
    obtain ⟨c, later, rfl, _⟩ := named.head
    rw [List.getLast?_append, List.getLast?_append, List.getLast?_cons]
    rfl
  have filled : keyword.text.toList ++ (blanks ++ name) ≠ [] := by
    obtain ⟨c, later, rfl, _⟩ := named.head
    simp
  have read := @read?_append position keyword _ _ _ apart named ends
  rw [stop, taken] at read
  rw [stop, taken, headsFrom, occurrencesFrom_read filled admitted read, last]
  rfl

end DeclarationHead

/-! ## Blocks -/

theorem blockBody_cons (depth : Nat) (c : Char) (rest : Text) :
    blockBody depth (c :: rest) =
      if c = '\x7b' then c :: blockBody (depth + 1) rest
      else if c = '\x7d' then
        match depth with
        | 0 => []
        | outer + 1 => c :: blockBody outer rest
      else c :: blockBody depth rest := by
  cases depth <;> rfl

theorem blockBody_bare {body : Text} (unopened : '\x7b' ∉ body) (unclosed : '\x7d' ∉ body)
    (depth : Nat) (rest : Text) :
    blockBody depth (body ++ rest) = body ++ blockBody depth rest := by
  induction body with
  | nil => rfl
  | cons c body hypothesis =>
      rw [List.mem_cons, not_or] at unopened unclosed
      rw [List.cons_append, blockBody_cons, if_neg (Ne.symm unopened.1),
        if_neg (Ne.symm unclosed.1), hypothesis unopened.2 unclosed.2, List.cons_append]

theorem blockBody_opener (depth : Nat) (rest : Text) :
    blockBody depth ('\x7b' :: rest) = '\x7b' :: blockBody (depth + 1) rest := by
  rw [blockBody_cons, if_pos rfl]

theorem blockBody_closer (depth : Nat) (rest : Text) :
    blockBody (depth + 1) ('\x7d' :: rest) = '\x7d' :: blockBody depth rest := by
  rw [blockBody_cons, if_neg (by decide), if_pos rfl]

theorem blockBody_end (rest : Text) : blockBody 0 ('\x7d' :: rest) = [] := by
  rw [blockBody_cons, if_neg (by decide), if_pos rfl]

theorem Cursor.block?_append {position : Nat} {front : Text} (unopened : '\x7b' ∉ front)
    (rest : Text) :
    block? ⟨position, front ++ '\x7b' :: rest⟩ =
      some ⟨position + front.length + 1, blockBody 0 rest⟩ := by
  have run : LongestRun (· != '\x7b') front ('\x7b' :: rest) := by
    refine .of_stop (fun c inside => bne_iff_ne.mpr ?_) rfl rest
    rintro rfl
    exact unopened inside
  simp only [block?, run_append run, one?_char, Option.bind_eq_bind, Option.bind_some,
    Option.pure_def]

/-! ## Members of enumerations -/

theorem enumMembers_comma (body rest : Text) :
    enumMembers (body ++ ',' :: rest) = enumMembers body ++ enumMembers rest := by
  have pieces : (body ++ ',' :: rest).splitOn ',' = body.splitOn ',' ++ rest.splitOn ',' :=
    List.splitOnP_append_cons body rest rfl
  rw [enumMembers, pieces, List.filterMap_append]
  rfl

theorem enumMembers_piece {piece : Text} (whole : ',' ∉ piece) (bare : '=' ∉ piece) :
    enumMembers piece =
      if Text.trim piece ≠ [] ∧ (Text.trim piece).all Text.isIdentifierChar then [Text.trim piece]
      else [] := by
  have taken : piece.takeWhile (· != '=') = piece := by
    rw [List.takeWhile_eq_self_iff]
    intro c inside
    refine bne_iff_ne.mpr ?_
    rintro rfl
    exact bare inside
  rw [enumMembers, List.splitOn_eq_singleton whole]
  by_cases named : Text.trim piece ≠ [] ∧ (Text.trim piece).all Text.isIdentifierChar
  · simp only [List.filterMap_cons, List.filterMap_nil, taken, if_pos named]
  · simp only [List.filterMap_cons, List.filterMap_nil, taken, if_neg named]

theorem notMem_of_blanks {blanks : Text} (blank : IsBlanks blanks) {c : Char}
    (solid : Text.isBlank c = false) : c ∉ blanks := by
  intro inside
  rw [blank c inside] at solid
  cases solid

theorem enumMembers_blanks {blanks : Text} (blank : IsBlanks blanks) : enumMembers blanks = [] := by
  have trimmed : Text.trim (blanks ++ ([] ++ [])) = [] :=
    trim_append blank (by simp [IsBlanks]) (.of_solid (by simp))
  rw [List.append_nil, List.append_nil] at trimmed
  rw [enumMembers_piece (notMem_of_blanks blank (by decide)) (notMem_of_blanks blank (by decide)),
    trimmed]
  rfl

theorem enumMembers_word {lead word trail : Text} (leads : IsBlanks lead) (named : IsAsciiName word)
    (trails : IsBlanks trail) : enumMembers (lead ++ (word ++ trail)) = [word] := by
  have absent {c : Char} (solid : Text.isBlank c = false) (other : isAsciiNameChar c = false) :
      c ∉ lead ++ (word ++ trail) := by
    rw [List.mem_append, List.mem_append, not_or, not_or]
    exact ⟨notMem_of_blanks leads solid, named.notMem other, notMem_of_blanks trails solid⟩
  have trimmed := trim_append leads trails <| .of_solid fun c inside =>
    isBlank_of_isAsciiNameChar (named.within c inside)
  rw [enumMembers_piece (absent (by decide) (by decide)) (absent (by decide) (by decide)),
    trimmed, if_pos ⟨named.isWord.1, List.all_eq_true.mpr named.isWord.2⟩]

theorem enumMembers_words {words : List Text} (ascii : ∀ word ∈ words, IsAsciiName word)
    {lead trail : Text} (leads : IsBlanks lead) (trails : IsBlanks trail) :
    enumMembers (lead ++ (", ".toList.intercalate words ++ trail)) = words := by
  induction words generalizing lead with
  | nil =>
      refine enumMembers_blanks ?_
      intro c inside
      exact (List.mem_append.mp inside).elim (leads c) (trails c)
  | cons word words hypothesis =>
      have named := ascii word List.mem_cons_self
      cases words with
      | nil =>
          rw [List.intercalate_singleton]
          exact enumMembers_word leads named trails
      | cons next words =>
          have later := hypothesis (fun word inside => ascii word (List.mem_cons_of_mem _ inside))
            someBlanks_space.blank
          have split : lead ++ (", ".toList.intercalate (word :: next :: words) ++ trail) =
              (lead ++ (word ++ [])) ++
                ',' :: ([' '] ++ (", ".toList.intercalate (next :: words) ++ trail)) := by
            rw [List.intercalate_cons_cons]
            simp
          rw [split, enumMembers_comma, later, enumMembers_word leads named (by simp [IsBlanks])]
          rfl

end StrategyDesk.Script
