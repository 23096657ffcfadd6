import StrategyDesk.Library.Strategy
import StrategyDesk.Proofs.Analysis.ModuleBody
import StrategyDesk.Proofs.Script.Region

/-!
# The module of instruments

The module that is generated for a list of tickers is found under its name, and the first thing it
declares is the enumeration of the instruments, whatever characters stand in the tickers: they come
behind all that is searched for. What they can change is where the body of the enumeration ends and
what in it is masked. If they are plain names, the members are the tickers.
-/

set_option autoImplicit false

namespace StrategyDesk

open Script

theorem Text.occursIn_append (before word rest : Text) :
    Text.occursIn word (before ++ (word ++ rest)) = true := by
  induction before with
  | nil =>
      cases word with
      | nil => cases rest <;> rfl
      | cons c word =>
          rw [List.nil_append, List.cons_append, Text.occursIn, Bool.or_eq_true]
          exact Or.inl (List.isPrefixOf_iff_prefix.mpr ⟨rest, rfl⟩)
  | cons c before hypothesis =>
      rw [List.cons_append, Text.occursIn, hypothesis, Bool.or_true]

namespace Library

variable {tickers : List Text}

def universeName : Text := "universe".toList

theorem stands_universeName (rest : Text) :
    (Lexeme.literal '"' universeName).StandsBefore rest := by
  have plain : universeName.all (fun c => c != '\\' && (c != '"' && c != '\n')) = true := by
    decide +kernel
  refine ⟨rfl, literalBody_of_plain ?_⟩
  intro c inside
  simpa using List.all_eq_true.mp plain c inside

/-! ## Its text, masked -/

def universeStart : Text := "\ndeclare module ".toList

def universeHeader : Text := "declare module \"universe\"".toList

def universeGap : Text := " \x7b\n  ".toList

def universeComment : Text :=
  (String.intercalate "\n" [
    "*",
    "   * @description",
    "   * Instruments available for backtesting.",
    "   *",
    "   * @example",
    "   * export const universe = [Instrument.BTCUSDT, Instrument.ETHUSDT];",
    "   "]).toList

def universeEnum : Text := "\n  export enum Instrument \x7b\n    ".toList

theorem universeModule_eq (tickers : List Text) :
    universeModule tickers = universeStart ++ ((Lexeme.literal '"' universeName).text ++
      (universeGap ++ ((Lexeme.blockComment universeComment).text ++
        (universeEnum ++ (", ".toList.intercalate tickers ++ universeClosing))))) := by
  have opening : universeOpening = universeStart ++ ((Lexeme.literal '"' universeName).text ++
      (universeGap ++ ((Lexeme.blockComment universeComment).text ++ universeEnum))) := by
    rw [universeOpening, universeComment, String.toList_intercalate, String.toList_intercalate]
    decide +kernel
  simp only [universeModule, opening, List.append_assoc]

/-- What stands in the block up to the word `export`: blanks alone, once the comment is masked. -/
def universeBlanks : Text :=
  ['\n', ' ', ' '] ++ ((Lexeme.blockComment universeComment).masked ++ ['\n', ' ', ' '])

theorem isBlanks_newLine : IsBlanks ['\n', ' ', ' '] := List.all_eq_true.mp (by decide)

theorem isBlanks_deeperLine : IsBlanks ['\n', ' ', ' ', ' ', ' '] :=
  List.all_eq_true.mp (by decide)

theorem isBlanks_universeBlanks : IsBlanks universeBlanks := by
  intro c inside
  rw [universeBlanks, List.mem_append, List.mem_append] at inside
  rcases inside with first | masked | last
  · exact isBlanks_newLine c first
  · obtain ⟨d, _, rfl⟩ := List.mem_map.mp masked
    rw [blankOut]
    split <;> decide
  · exact isBlanks_newLine c last

/-- What is behind the brace that opens the enumeration, masked. -/
def universeTail (tickers : List Text) : Text :=
  ['\n', ' ', ' ', ' ', ' '] ++ mask (", ".toList.intercalate tickers ++ universeClosing)

def universeBody (tickers : List Text) : Text := blockBody 0 (universeTail tickers)

def universeBlock (tickers : List Text) : Text :=
  universeBlanks ++ ("export enum Instrument ".toList ++
    '\x7b' :: blockBody 1 (universeTail tickers))

theorem mask_universeModule (tickers : List Text) :
    mask (universeModule tickers) = '\n' :: (universeHeader ++ ' ' :: '\x7b' ::
      (universeBlanks ++ ("export enum Instrument ".toList ++
        '\x7b' :: universeTail tickers))) := by
  have unclosed : ¬ ['*', '/'] <:+: universeComment ++ ['*'] := by
    have no_slash : (universeComment ++ ['*']).all (fun c => c != '/') = true := by
      rw [universeComment, String.toList_intercalate]
      decide +kernel
    intro closes
    have slash := List.all_eq_true.mp no_slash '/' (closes.mem (by decide))
    cases slash
  have commented (rest : Text) : (Lexeme.blockComment universeComment).StandsBefore rest := unclosed
  have masked : mask (universeModule tickers) =
      universeStart ++ ((Lexeme.literal '"' universeName).masked ++
        (universeGap ++ ((Lexeme.blockComment universeComment).masked ++
          (universeEnum ++ mask (", ".toList.intercalate tickers ++ universeClosing))))) := by
    rw [universeModule_eq, mask_others (by decide +kernel), mask_lexeme (stands_universeName _),
      mask_others (by decide +kernel), mask_lexeme (commented _), mask_others (by decide +kernel)]
  have header : universeStart ++ (Lexeme.literal '"' universeName).masked =
      '\n' :: universeHeader := by decide +kernel
  have gap : universeGap = ' ' :: '\x7b' :: ['\n', ' ', ' '] := by decide +kernel
  have enum : universeEnum = ['\n', ' ', ' '] ++ ("export enum Instrument ".toList ++
      '\x7b' :: ['\n', ' ', ' ', ' ', ' ']) := by
    decide +kernel
  rw [masked, ← List.append_assoc, header, gap, enum]
  simp only [universeBlanks, universeTail, List.append_assoc, List.cons_append]

/-! ## Its block -/

theorem blockBody_universe (tickers : List Text) :
    blockBody 0 (universeBlanks ++ ("export enum Instrument ".toList ++
      '\x7b' :: universeTail tickers)) = universeBlock tickers := by
  have absent {c : Char} (solid : Text.isBlank c = false)
      (other : "export enum Instrument ".toList.all (fun d => d != c) = true) :
      c ∉ universeBlanks ++ "export enum Instrument ".toList := by
    intro inside
    rcases List.mem_append.mp inside with blank | word
    · exact notMem_of_blanks isBlanks_universeBlanks solid blank
    · exact bne_iff_ne.mp (List.all_eq_true.mp other c word) rfl
  rw [← List.append_assoc, blockBody_bare (absent (by decide) (by decide +kernel))
    (absent (by decide) (by decide +kernel)), blockBody_opener, List.append_assoc, universeBlock]

theorem mem_intercalate {entries : List Text} {c : Char}
    (inside : c ∈ ", ".toList.intercalate entries) :
    c = ',' ∨ c = ' ' ∨ ∃ entry ∈ entries, c ∈ entry := by
  induction entries with
  | nil => cases inside
  | cons entry entries hypothesis =>
      have first (here : c ∈ entry) : c = ',' ∨ c = ' ' ∨ ∃ entry' ∈ entry :: entries, c ∈ entry' :=
        Or.inr (Or.inr ⟨entry, List.mem_cons_self, here⟩)
      cases entries with
      | nil =>
          rw [List.intercalate_singleton] at inside
          exact first inside
      | cons next entries =>
          rw [List.intercalate_cons_cons, List.mem_append, List.mem_append] at inside
          rcases inside with (here | between) | later
          · exact first here
          · rcases List.mem_cons.mp between with rfl | space
            · exact Or.inl rfl
            · exact Or.inr (Or.inl (List.mem_singleton.mp space))
          · rcases hypothesis later with comma | space | ⟨entry', held, here⟩
            · exact Or.inl comma
            · exact Or.inr (Or.inl space)
            · exact Or.inr (Or.inr ⟨entry', List.mem_cons_of_mem _ held, here⟩)

theorem notMem_intercalate {entries : List Text} {c : Char} (comma : c ≠ ',') (space : c ≠ ' ')
    (nowhere : ∀ entry ∈ entries, c ∉ entry) : c ∉ ", ".toList.intercalate entries := by
  intro inside
  rcases mem_intercalate inside with rfl | rfl | ⟨entry, held, here⟩
  · exact comma rfl
  · exact space rfl
  · exact nowhere entry held here

/-- Whether a ticker has no slash and no brace. -/
structure Plain (ticker : Text) : Prop where
  slashless : '/' ∉ ticker
  unopened : '\x7b' ∉ ticker
  unclosed : '\x7d' ∉ ticker

theorem universeClosing_eq :
    universeClosing = ['\n', ' ', ' '] ++ '\x7d' :: ['\n', '\x7d', '\n'] := by
  decide +kernel

/-- Without slashes and braces in the tickers, the body of the enumeration is their list. -/
theorem universeBody_plain (plain : ∀ ticker ∈ tickers, Plain ticker) :
    universeBody tickers = ['\n', ' ', ' ', ' ', ' '] ++
      (", ".toList.intercalate tickers ++ ['\n', ' ', ' ']) := by
  have slashless : '/' ∉ ", ".toList.intercalate tickers ++ universeClosing := by
    rw [List.mem_append, not_or]
    exact ⟨notMem_intercalate (by decide) (by decide) fun ticker held =>
      (plain ticker held).slashless, by decide +kernel⟩
  have absent {brace : Char} (comma : brace ≠ ',') (space : brace ≠ ' ') (feed : brace ≠ '\n')
      (nowhere : ∀ ticker ∈ tickers, brace ∉ ticker) :
      brace ∉ ['\n', ' ', ' ', ' ', ' '] ++
        (", ".toList.intercalate tickers ++ ['\n', ' ', ' ']) := by
    rw [List.mem_append, List.mem_append, not_or, not_or]
    exact ⟨by simp [space, feed], notMem_intercalate comma space nowhere, by simp [space, feed]⟩
  have unopened := absent (by decide) (by decide) (by decide) fun ticker held =>
    (plain ticker held).unopened
  have unclosed := absent (by decide) (by decide) (by decide) fun ticker held =>
    (plain ticker held).unclosed
  rw [universeBody, universeTail, mask, maskFrom_slashless .code slashless, universeClosing_eq,
    ← List.append_assoc (", ".toList.intercalate tickers), ← List.append_assoc,
    blockBody_bare unopened unclosed, blockBody_end, List.append_nil]

/-! ## What it declares -/

def universePlace : Nat := universeBlanks.length + 7

theorem universeBlock_eq (tickers : List Text) :
    universeBlock tickers = universeBlanks ++ ("export".toList ++ ([' '] ++
      (Keyword.enumDecl.text.toList ++ ([' '] ++ ("Instrument".toList ++
        ([' '] ++ '\x7b' :: blockBody 1 (universeTail tickers))))))) := by
  have opening : "export enum Instrument ".toList = "export".toList ++ ([' '] ++
      (Keyword.enumDecl.text.toList ++ ([' '] ++ ("Instrument".toList ++ [' '])))) := by
    decide +kernel
  simp only [universeBlock, opening, List.append_assoc]

theorem isName_instrument : IsName "Instrument".toList :=
  ((isAsciiName_iff "Instrument".toList).mpr (by decide +kernel)).isName

theorem unworded_universeBlanks : universeBlanks.all (fun c => !Text.isNameChar c) = true := by
  rw [List.all_eq_true]
  intro c inside
  rw [Text.isNameChar_of_isBlank (isBlanks_universeBlanks c inside)]
  rfl

theorem exists_heads_universeBlock (tickers : List Text) :
    ∃ later, DeclarationHead.all (universeBlock tickers) =
      ⟨.enumDecl, universePlace, ⟨universePlace + 5, "Instrument".toList⟩⟩ :: later := by
  have lead : "export".toList.length + [' '].length = 7 := by decide
  have gap : Keyword.enumDecl.text.toList.length + [' '].length = 5 := by decide
  have place : 0 + universeBlanks.length + "export".toList.length + [' '].length =
      universePlace := by
    rw [universePlace, ← lead]
    omega
  have within : ∀ c ∈ "export".toList, Text.isNameChar c = true :=
    List.all_eq_true.mp (by decide +kernel)
  show ∃ later, DeclarationHead.headsFrom 0 none (universeBlock tickers) = _ :: later
  rw [universeBlock_eq, DeclarationHead.headsFrom_unworded unworded_universeBlanks,
    DeclarationHead.headsFrom_word within (stops_at rfl (by decide +kernel))
      (undeclared_of_ends (by decide +kernel)),
    DeclarationHead.headsFrom_unworded (by decide +kernel),
    DeclarationHead.headsFrom_head rfl .enumDecl someBlanks_space isName_instrument
      (stops_at rfl (by decide +kernel)), place, Nat.add_assoc universePlace, gap]
  exact ⟨_, rfl⟩

/-- The enumeration of the instruments, with the members that are read in its body. -/
def instruments (tickers : List Text) : Declaration :=
  ⟨.enumDecl, "Instrument".toList, enumMembers (universeBody tickers), universePlace⟩

theorem members_instruments (ascii : ∀ ticker ∈ tickers, IsAsciiName ticker) :
    (instruments tickers).members = tickers := by
  have absent {c : Char} (other : isAsciiNameChar c = false) :
      ∀ ticker ∈ tickers, c ∉ ticker := fun ticker held => (ascii ticker held).notMem other
  have plain : ∀ ticker ∈ tickers, Plain ticker := fun ticker held =>
    ⟨absent (by decide) ticker held, absent (by decide) ticker held,
      absent (by decide) ticker held⟩
  rw [instruments, universeBody_plain plain]
  exact enumMembers_words ascii isBlanks_deeperLine isBlanks_newLine

theorem declaration?_universeBlock (tickers : List Text) (body : Text) :
    (Module.ofBody body (universeBlock tickers)).declaration? "Instrument".toList =
      some (instruments tickers) := by
  obtain ⟨stop, stopped⟩ : ∃ stop, universePlace + 5 + "Instrument".toList.length = stop :=
    ⟨_, rfl⟩
  have front : (universeBlanks ++ "export enum Instrument".toList).length = stop := by
    have words : "export enum Instrument".toList.length = 7 + 5 + "Instrument".toList.length := by
      decide +kernel
    rw [← stopped, universePlace, List.length_append, words]
    omega
  have split : universeBlock tickers = (universeBlanks ++ "export enum Instrument".toList) ++
      ([' '] ++ '\x7b' :: blockBody 1 (universeTail tickers)) := by
    have word : "export enum Instrument ".toList = "export enum Instrument".toList ++ [' '] := by
      decide +kernel
    simp only [universeBlock, word, List.append_assoc]
  have block : (Cursor.mk stop ((universeBlock tickers).drop stop)).block? =
      some ⟨stop + [' '].length + 1, universeBody tickers⟩ := by
    rw [split, List.drop_left' front, Cursor.block?_append (by decide), blockBody_blockBody 0 1,
      universeBody]
  obtain ⟨later, heads⟩ := exists_heads_universeBlock tickers
  rw [← stopped] at block
  rw [Module.declaration?, Module.ofBody, heads, List.map_cons, Declaration.ofHead_enum block]
  exact List.find?_cons_of_pos (beq_self_eq_true "Instrument".toList)

/-! ## It is found -/

theorem search_universeModule (tickers : List Text) :
    ∃ module, Module.search universeName (universeModule tickers) = .found module ∧
      module.declaration? "Instrument".toList = some (instruments tickers) := by
  have mentioned : Module.mentions universeName (universeModule tickers) = true := by
    have quoted : (Lexeme.literal '"' universeName).text = '"' :: universeName ++ ['"'] := rfl
    rw [Module.mentions, universeModule_eq, quoted, Text.occursIn_append, Bool.true_or]
  have form : IsModuleHeader universeName universeHeader := by
    have split : universeHeader = ("declare".toList ++ ([' '] ++ ("module".toList ++ [' ']))) ++
        '"' :: (universeName ++ ['"']) := by
      decide +kernel
    rw [split]
    exact .mk (.mk someBlanks_space someBlanks_space) rfl rfl
  let behind := [' '] ++ '\x7b' :: (universeBlanks ++ ("export enum Instrument ".toList ++
    '\x7b' :: universeTail tickers))
  have masked : mask (universeModule tickers) = ['\n'] ++ (universeHeader ++ behind) :=
    mask_universeModule tickers
  have head : (occurrences anywhere (moduleHeader? universeName)
      (mask (universeModule tickers))).head? = some ⟨0 + 1 + universeHeader.length, behind⟩ := by
    have unread : ∀ first c later, ['\n'] = first ++ c :: later →
        moduleHeader? universeName ⟨0 + first.length, c :: (later ++ (universeHeader ++ behind))⟩ =
          none := by
      intro first c later split
      cases first with
      | nil =>
          cases split
          rfl
      | cons d first => simp at split
    rw [masked, occurrences, occurrencesFrom_unread_part unread,
      occurrencesFrom_read (by decide) rfl (moduleHeader?_append form behind)]
    rfl
  have block : (Cursor.mk (0 + 1 + universeHeader.length) behind).block? =
      some ⟨0 + 1 + universeHeader.length + [' '].length + 1, universeBlock tickers⟩ := by
    rw [Cursor.block?_append (by decide), blockBody_universe]
  have found := Module.search_eq_found mentioned head block
  exact ⟨_, found, declaration?_universeBlock tickers _⟩

/-- Whether the files of a sandbox hold the module of instruments in its place, and no other file
that can be read declares a module of its name. -/
structure HoldsUniverse (files : FileSystem) (tickers : List Text) : Prop where
  held : files.read? universePath = some (universeModule tickers)
  alone : ∀ path content, path ≠ universePath → files.read? path = some content →
    ¬ Module.HasHeader universeName content

theorem find?_universe {files : FileSystem} (holds : HoldsUniverse files tickers) :
    ∃ module, Module.find? files universeName = some module ∧
      module.declaration? "Instrument".toList = some (instruments tickers) := by
  obtain ⟨module, found, declared⟩ := search_universeModule tickers
  have header : Module.HasHeader universeName (universeModule tickers) := by
    by_contra headless
    rw [Module.search_of_headless headless] at found
    cases found
  have first : Module.FirstHeader files universeName universePath (universeModule tickers) := by
    refine ⟨holds.held, header, ?_⟩
    intro earlier text read precedes
    refine holds.alone earlier text ?_ read
    rintro rfl
    exact precedes.asymm precedes
  obtain ⟨before, after, split, headless⟩ := first.exists_split
  have here : Module.firstIn? universeName (universeModule tickers :: after.map Prod.snd) =
      some module := by
    rw [Module.firstIn?, found]
  exact ⟨module, (Module.find?_of_headless_front split headless).trans here, declared⟩

end Library

end StrategyDesk
