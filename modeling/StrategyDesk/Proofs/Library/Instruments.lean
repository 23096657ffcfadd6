import StrategyDesk.Proofs.Analysis.Selection
import StrategyDesk.Proofs.Library.Universe
import StrategyDesk.Proofs.Script.Balance
import StrategyDesk.Sandbox.Environment

/-!
# Instruments in a script

A script that imports the instruments knows the tickers that the module was generated for, and no
others: an instrument that is not among them is reported where it stands, and behind a point those
that begin with what was typed are offered.
-/

set_option autoImplicit false

namespace StrategyDesk

open Script

theorem Script.ImportStatement.none_unquoted {position : Nat} {before : Option Char} {text : Text}
    (unquoted : text.all (fun c => !isPlainQuote c) = true) :
    occurrencesFrom wordStart read? 0 position before text = [] := by
  refine occurrencesFrom_eq_nil ?_
  intro first rest split
  cases read : read? ⟨position + first.length, rest⟩ with
  | none => rfl
  | some result =>
      obtain ⟨statement, after⟩ := result
      obtain ⟨taken, form, whole, _⟩ := read?_sound read
      cases form with
      | @mk lead clause name names quote last apart form opens =>
          have inside : quote ∈ text := by
            rw [split, whole]
            simp
          have plain := List.all_eq_true.mp unquoted quote inside
          rw [opens] at plain
          cases plain

theorem Script.bracketless_of_isAsciiNameChar {c : Char} (ascii : isAsciiNameChar c = true) :
    ((Bracket.ofOpener? c).isNone && (Bracket.ofCloser? c).isNone) = true := by
  rw [Bool.and_eq_true, Option.isNone_iff_eq_none, Option.isNone_iff_eq_none]
  constructor
  · cases opens : Bracket.ofOpener? c with
    | none => rfl
    | some bracket =>
        rw [(Bracket.ofOpener?_eq_some_iff c bracket).mp opens] at ascii
        cases bracket <;> cases ascii
  · cases closes : Bracket.ofCloser? c with
    | none => rfl
    | some bracket =>
        rw [(Bracket.ofCloser?_eq_some_iff c bracket).mp closes] at ascii
        cases bracket <;> cases ascii

theorem Module.not_hasHeader_of_undeclared {name content : Text}
    (undeclared : ¬ "declare".toList <:+: mask content) : ¬ HasHeader name content := by
  rintro ⟨_, before, header, rest, split, form⟩
  apply undeclared
  cases form with
  | @mk lead first last leads =>
      cases leads with
      | @mk blanks gap =>
          rw [split, List.append_assoc, List.append_assoc]
          exact ⟨before, _, List.append_assoc _ _ _⟩

namespace Library

variable {tickers : List Text} {files : FileSystem}

/-! ## The import -/

def importStart : Text := "import \x7b Instrument \x7d from ".toList

def importLine : Text := "import \x7b Instrument \x7d from \"universe\";\n".toList

def importing (rest : Text) : Text := importLine ++ rest

theorem importing_eq (rest : Text) :
    importing rest = importStart ++ ((Lexeme.literal '"' universeName).text ++
      ([';', '\n'] ++ rest)) := by
  have line : importLine = importStart ++ ((Lexeme.literal '"' universeName).text ++
      [';', '\n']) := by
    decide +kernel
  rw [importing, line, List.append_assoc, List.append_assoc]

theorem mask_importing (rest : Text) : mask (importing rest) = importing (mask rest) := by
  rw [importing_eq, mask_others (by decide +kernel), mask_lexeme (stands_universeName _),
    mask_others (by decide +kernel), importing_eq]
  rfl

def instrumentImport : ImportStatement := ⟨some ⟨8, " Instrument ".toList⟩, ⟨28, universeName⟩⟩

/-- The text of the import without what separates it from the next line. -/
def importText : Text := importStart ++ (Lexeme.literal '"' universeName).text

/-- What stands between the word `import` and the name of the module. -/
def importClause : Text := "\x7b Instrument \x7d from ".toList

theorem isImport_importText : IsImport 0 importText instrumentImport := by
  have clause : IsClause (0 + "import".toList.length + [' '].length) importClause
      (some ⟨0 + "import".toList.length + [' '].length + 1, " Instrument ".toList⟩) := by
    have split : importClause = '\x7b' :: (" Instrument ".toList ++
        '\x7d' :: ([' '] ++ ("from".toList ++ [' ']))) := by
      decide +kernel
    have bare : " Instrument ".toList.all (fun c => c != '\x7d') = true := by decide +kernel
    rw [split]
    refine .named ?_ someBlanks_space.blank someBlanks_space.blank
    intro closes
    cases List.all_eq_true.mp bare _ closes
  have unquoted : ∀ c ∈ universeName, isPlainQuote c = false := by
    have plain : universeName.all (fun c => !isPlainQuote c) = true := by decide +kernel
    intro c inside
    simpa using List.all_eq_true.mp plain c inside
  have form := @IsImport.mk 0 _ _ universeName _ '"' '"' someBlanks_space clause rfl (by decide)
    unquoted rfl
  have text : importText = "import".toList ++ ([' '] ++ (importClause ++
      '"' :: (universeName ++ ['"']))) := by
    decide +kernel
  have statement : instrumentImport =
      ⟨some ⟨0 + "import".toList.length + [' '].length + 1, " Instrument ".toList⟩,
        ⟨0 + "import".toList.length + [' '].length + importClause.length + 1, universeName⟩⟩ := by
    decide +kernel
  rw [text, statement]
  exact form

theorem imports_importing (rest : Text) :
    ImportStatement.all (importing rest) = instrumentImport ::
      occurrencesFrom wordStart ImportStatement.read? 0 (0 + importText.length)
        importText.getLast? ([';', '\n'] ++ rest) := by
  have filled : importText ≠ [] := by decide +kernel
  have split : importing rest = importText ++ ([';', '\n'] ++ rest) := by
    rw [importing_eq, importText, List.append_assoc]
  rw [split, ImportStatement.all, occurrences, occurrencesFrom_read filled rfl
    (ImportStatement.read?_append isImport_importText _)]

example : ImportStatement.all (importing "import \"indicators\"".toList) =
    [instrumentImport, ⟨none, ⟨47, "indicators".toList⟩⟩] := by
  decide +kernel

theorem ofImport_instruments {module : Module} {declaration : Declaration}
    (found : Module.find? files universeName = some module)
    (declared : module.declaration? "Instrument".toList = some declaration) :
    Resolution.ofImport files instrumentImport =
      ⟨[⟨"Instrument".toList, module, declaration⟩], [module], []⟩ := by
  have pieces : Resolution.placePieces 8 (" Instrument ".toList.splitOn ',') =
      [⟨8, " Instrument ".toList⟩] := by
    decide +kernel
  have trimmed : Text.trim " Instrument ".toList = "Instrument".toList := by decide +kernel
  have filled : "Instrument".toList ≠ [] := by decide +kernel
  have plain : Resolution.importedName "Instrument".toList =
      ("Instrument".toList, "Instrument".toList) := by
    decide +kernel
  have resolved : Resolution.resolvePiece module universeName ⟨8, " Instrument ".toList⟩ =
      some (.inl ⟨"Instrument".toList, module, declaration⟩) := by
    simp only [Resolution.resolvePiece, trimmed, if_neg filled, plain, declared]
  have names : instrumentImport.names = some ⟨8, " Instrument ".toList⟩ := rfl
  have name : instrumentImport.specifier.text = universeName := rfl
  simp only [Resolution.ofImport, name, found, names, pieces, List.filterMap_cons,
    List.filterMap_nil, resolved]
  rfl

/-- The import binds `Instrument` to the enumeration of the module, whatever the tickers are and
whatever follows, and nothing is reported about imports if no other one can follow. -/
theorem resolution_importing (holds : HoldsUniverse files tickers) (rest : Text) :
    (∃ binding, (Resolution.ofScript files (importing rest)).binding? "Instrument".toList =
        some binding ∧ binding.declaration = instruments tickers) ∧
      (rest.all (fun c => !isPlainQuote c) = true →
        (Resolution.ofScript files (importing rest)).findings = []) := by
  obtain ⟨module, found, declared⟩ := find?_universe holds
  have resolved := ofImport_instruments found declared
  constructor
  · refine ⟨⟨"Instrument".toList, module, instruments tickers⟩, ?_, rfl⟩
    simp only [Resolution.binding?, Resolution.ofScript, imports_importing, List.map_cons,
      List.flatMap_cons, resolved, List.cons_append]
    exact List.find?_cons_of_pos (beq_self_eq_true "Instrument".toList)
  · intro unquoted
    have none_follows : ([';', '\n'] ++ rest).all (fun c => !isPlainQuote c) = true := by
      rw [List.all_append, unquoted]
      rfl
    simp only [Resolution.ofScript, imports_importing, ImportStatement.none_unquoted none_follows,
      List.map_cons, List.map_nil, List.flatMap_cons, List.flatMap_nil, resolved, List.append_nil]

/-! ## An instrument in a list -/

def listStart : Text := "const u = [Instrument.".toList

def listing (name : Text) : Text := listStart ++ (name ++ "];".toList)

def listedPlace : Nat := (importing listStart).length

def listGap : Text := ";\nconst u = [".toList

theorem importing_listing_eq (name : Text) :
    importing (listing name) = importStart ++ '"' :: (universeName ++ '"' ::
      (listGap ++ ("Instrument".toList ++ '.' :: (name ++ [']', ';'])))) := by
  have quoted : (Lexeme.literal '"' universeName).text = '"' :: (universeName ++ ['"']) := rfl
  have start : [';', '\n'] ++ listStart = listGap ++ ("Instrument".toList ++ ['.']) := by
    decide +kernel
  have closing : "];".toList = [']', ';'] := by decide +kernel
  have between : [';', '\n'] ++ listing name =
      listGap ++ ("Instrument".toList ++ '.' :: (name ++ [']', ';'])) := by
    rw [listing, ← List.append_assoc, start, closing]
    simp only [List.append_assoc, List.cons_append, List.nil_append]
  rw [importing_eq, quoted, between]
  simp only [List.append_assoc, List.cons_append, List.nil_append]

theorem accesses_listing {name : Text} (named : IsName name) :
    ∃ place, Access.all (importing (listing name)) =
      [⟨⟨place, "Instrument".toList⟩, ⟨listedPlace, name⟩⟩] := by
  have absent {part : Text} (bare : part.all (fun c => c != '.') = true) : '.' ∉ part := by
    intro inside
    cases List.all_eq_true.mp bare '.' inside
  have last : listGap.getLast? = some '[' := by decide +kernel
  have place : 0 + importStart.length + 1 + universeName.length + 1 + listGap.length +
      "Instrument".toList.length + 1 = listedPlace := by
    decide +kernel
  refine ⟨0 + importStart.length + 1 + universeName.length + 1 + listGap.length, ?_⟩
  show Access.allFrom 0 (importing (listing name)) = _
  rw [importing_listing_eq, Access.allFrom_split rfl, Access.allFrom_split rfl,
    Access.allFrom_eq_nil (absent (by decide +kernel)),
    Access.allFrom_eq_nil (absent (by decide +kernel)),
    Access.allFrom_part (absent (by decide +kernel)) (stops_at last (by decide +kernel)),
    Access.allFrom_access isName_instrument named (stops_at rfl (by decide +kernel)),
    Access.allFrom_eq_nil (absent (by decide +kernel)), place]
  rfl

def listedLexemes (name : Text) : List Lexeme :=
  importStart.map .other ++ .literal '"' universeName ::
    (listGap ++ ("Instrument".toList ++ '.' :: (name ++ [']', ';']))).map .other

theorem isReading_listedLexemes {name : Text} (ascii : IsAsciiName name) :
    IsReading (importing (listing name)) (listedLexemes name) := by
  constructor
  · unfold listedLexemes
    rw [Lexeme.textOf_append, Lexeme.textOf_cons, Lexeme.textOf_others, Lexeme.textOf_others,
      importing_listing_eq]
    simp only [Lexeme.text, List.append_assoc, List.cons_append, List.nil_append]
  · have plain : (listGap ++ ("Instrument".toList ++ '.' :: (name ++ [']', ';']))).all
        (fun c => !isQuote c && c != '/') = true := by
      have named : name.all (fun c => !isQuote c && c != '/') = true :=
        List.all_eq_true.mpr fun c inside => plain_of_isNameChar (ascii.isName.2 c inside)
      have gap : listGap.all (fun c => !isQuote c && c != '/') = true := by decide +kernel
      have word : "Instrument".toList.all (fun c => !isQuote c && c != '/') = true := by
        decide +kernel
      rw [List.all_append, List.all_append, List.all_cons, List.all_append, gap, word, named]
      rfl
    have behind := @Lexeme.readable_others _ [] plain trivial
    rw [List.append_nil] at behind
    exact Lexeme.readable_others (by decide +kernel) ⟨stands_universeName _, behind⟩

theorem nested_listedLexemes {name : Text} (ascii : IsAsciiName name) :
    Nested (listedLexemes name) := by
  have front : importStart = "import ".toList ++ Bracket.curly.opener ::
      (" Instrument ".toList ++ Bracket.curly.closer :: " from ".toList) := by
    decide +kernel
  have gap : listGap = ";\nconst u = ".toList ++ [Bracket.square.opener] := by decide +kernel
  have closing : [']', ';'] = Bracket.square.closer :: [';'] := rfl
  have lexemes : listedLexemes name = "import ".toList.map Lexeme.other ++
      (Lexeme.other Bracket.curly.opener :: (" Instrument ".toList.map Lexeme.other ++
        Lexeme.other Bracket.curly.closer :: (" from ".toList.map Lexeme.other ++
          (Lexeme.literal '"' universeName :: (";\nconst u = ".toList.map Lexeme.other ++
            (Lexeme.other Bracket.square.opener ::
              (("Instrument".toList ++ '.' :: name).map Lexeme.other ++
                Lexeme.other Bracket.square.closer :: [Lexeme.other ';']))))))) := by
    unfold listedLexemes
    rw [front, gap, closing]
    simp only [List.map_append, List.map_cons, List.map_nil, List.append_assoc, List.cons_append,
      List.nil_append]
  have bracketless {text : Text} (bare : text.all (fun c =>
      (Bracket.ofOpener? c).isNone && (Bracket.ofCloser? c).isNone) = true) :
      Nested (text.map .other) := by
    have nested := nested_others bare .nil
    rwa [List.append_nil] at nested
  have listed : ("Instrument".toList ++ '.' :: name).all (fun c =>
      (Bracket.ofOpener? c).isNone && (Bracket.ofCloser? c).isNone) = true := by
    have named : name.all (fun c =>
        (Bracket.ofOpener? c).isNone && (Bracket.ofCloser? c).isNone) = true :=
      List.all_eq_true.mpr fun c inside => bracketless_of_isAsciiNameChar (ascii.within c inside)
    have word : "Instrument".toList.all (fun c =>
        (Bracket.ofOpener? c).isNone && (Bracket.ofCloser? c).isNone) = true := by
      decide +kernel
    rw [List.all_append, List.all_cons, word, named]
    rfl
  have names : Nested (" Instrument ".toList.map .other) := bracketless (by decide +kernel)
  have last : Nested [Lexeme.other ';'] := @bracketless [';'] (by decide)
  have list := Nested.pair .square (bracketless listed) last
  have behind := @Nested.neutral (.literal '"' universeName) _ trivial
    (@nested_others ";\nconst u = ".toList (by decide +kernel) _ list)
  have clause := Nested.pair .curly names
    (@nested_others " from ".toList (by decide +kernel) _ behind)
  rw [lexemes]
  exact @nested_others "import ".toList (by decide +kernel) _ clause

example : faults (importing (listing "ETH".toList)) = [] := by decide +kernel

/-- A live sandbox with the structural analysis, in which the module of instruments is the only one
of its name. -/
structure KnowsUniverse (env : Environment) (tickers : List Text) : Prop where
  live : env.disposed = false
  structural : env.service = Structural.service
  holds : HoldsUniverse env.files tickers

theorem plain_listing {name : Text} (ascii : IsAsciiName name) :
    (listing name).all (fun c => !isQuote c && c != '/') = true := by
  have start : listStart.all (fun c => !isQuote c && c != '/') = true := by decide +kernel
  have closing : "];".toList.all (fun c => !isQuote c && c != '/') = true := by decide +kernel
  have named : name.all (fun c => !isQuote c && c != '/') = true :=
    List.all_eq_true.mpr fun c inside => plain_of_isNameChar (ascii.isName.2 c inside)
  rw [listing, List.all_append, List.all_append, start, named, closing]
  rfl

theorem mask_of_plain {text : Text}
    (plain : text.all (fun c => !isQuote c && c != '/') = true) : mask text = text := by
  have masked := mask_others plain []
  rw [List.append_nil] at masked
  exact masked.trans (List.append_nil text)

theorem unquoted_of_plain {text : Text}
    (plain : text.all (fun c => !isQuote c && c != '/') = true) :
    text.all (fun c => !isPlainQuote c) = true := by
  rw [List.all_eq_true] at plain ⊢
  intro c inside
  have bare := plain c inside
  cases double : c == '"' <;> cases single : c == '\'' <;>
    simp_all [isQuote, isPlainQuote]

theorem accessFinding?_instrument {resolution : Resolution} {binding : Binding}
    (bound : resolution.binding? "Instrument".toList = some binding)
    (declared : binding.declaration = instruments tickers) (place place' : Nat) (name : Text) :
    Structural.accessFinding? resolution ⟨⟨place, "Instrument".toList⟩, ⟨place', name⟩⟩ =
      if name ∈ (instruments tickers).members then none
      else some (.error place' name.length 2339
        s!"Property '{String.ofList name}' does not exist on type 'typeof Instrument'.") := by
  have message : Structural.missingProperty ⟨⟨place, "Instrument".toList⟩, ⟨place', name⟩⟩ =
      .error place' name.length 2339
        s!"Property '{String.ofList name}' does not exist on type 'typeof Instrument'." := by
    have joined (before name : String) :
        before ++ name ++ "' does not exist on type 'typeof " ++ "Instrument" ++ "'." =
          before ++ name ++ "' does not exist on type 'typeof Instrument'." := by
      have words : "' does not exist on type 'typeof " ++ "Instrument" ++ "'." =
          "' does not exist on type 'typeof Instrument'." := by
        decide +kernel
      rw [← words, ← String.append_assoc, ← String.append_assoc]
    simp only [Structural.missingProperty, String.ofList_toList]
    exact congrArg _ (joined _ _)
  have enum : (instruments tickers).isEnum = true := rfl
  rw [← message, Structural.accessFinding?]
  simp only [bound, declared, enum, Option.bind_eq_bind, Option.bind_some, true_and]
  by_cases listed : name ∈ (instruments tickers).members
  · rw [if_pos listed, if_neg (not_not_intro listed)]
  · rw [if_neg listed, if_pos listed]

/-- Whatever the tickers are, nothing is reported in a list of one instrument if it is a member that
is read, else its name alone. -/
theorem findings_importing {env : Environment} (knows : KnowsUniverse env tickers) {name : Text}
    (named : IsAsciiName name) {path : String}
    (read : env.files.read? path = some (importing (listing name))) :
    env.findings path =
      if name ∈ (instruments tickers).members then []
      else [.error listedPlace name.length 2339
        s!"Property '{String.ofList name}' does not exist on type 'typeof Instrument'."] := by
  have masked : mask (importing (listing name)) = importing (listing name) := by
    rw [mask_importing, mask_of_plain (plain_listing named)]
  have faultless : faults (importing (listing name)) = [] :=
    (faults_eq_nil_iff_nested (isReading_listedLexemes named)).mpr (nested_listedLexemes named)
  obtain ⟨⟨binding, bound, declared⟩, none_missing⟩ :=
    resolution_importing knows.holds (listing name)
  obtain ⟨place, accesses⟩ := accesses_listing named.isName
  rw [Environment.findings, knows.live, knows.structural, if_neg Bool.false_ne_true]
  simp only [Structural.service, read, Option.map_some, Option.getD_some, faultless,
    Structural.Study.ofScript, Structural.Study.findings, masked, accesses,
    none_missing (unquoted_of_plain (plain_listing named)), List.nil_append]
  rw [List.filterMap_cons, accessFinding?_instrument bound declared, List.filterMap_nil]
  by_cases listed : name ∈ (instruments tickers).members
  · rw [if_pos listed, if_pos listed]
  · rw [if_neg listed, if_neg listed]

theorem findings_listing {env : Environment} (knows : KnowsUniverse env tickers)
    (ascii : ∀ ticker ∈ tickers, IsAsciiName ticker) {name : Text} (named : IsAsciiName name)
    {path : String} (read : env.files.read? path = some (importing (listing name))) :
    env.findings path =
      if name ∈ tickers then []
      else [.error listedPlace name.length 2339
        s!"Property '{String.ofList name}' does not exist on type 'typeof Instrument'."] := by
  rw [findings_importing knows named read, members_instruments ascii]

/-! ## An instrument that is being typed -/

/-- Whether a text ends, not in a comment, in the word `Instrument`, a point and a stem. -/
def TypesInstrument (text stem : Text) : Prop :=
  ∃ front, mask text = front ++ ("Instrument".toList ++ '.' :: stem) ∧
    ∀ c ∈ front.getLast?, Text.isNameChar c = false

theorem typesInstrument_listStart {stem : Text} (within : ∀ c ∈ stem, Text.isNameChar c = true) :
    TypesInstrument (listStart ++ stem) stem := by
  have start : listStart = "const u = [".toList ++ ("Instrument".toList ++ ['.']) := by
    decide +kernel
  have last : "const u = [".toList.getLast? = some '[' := by decide +kernel
  have plain : (listStart ++ stem).all (fun c => !isQuote c && c != '/') = true := by
    have typed : stem.all (fun c => !isQuote c && c != '/') = true :=
      List.all_eq_true.mpr fun c inside => plain_of_isNameChar (within c inside)
    rw [List.all_append, typed, Bool.and_true]
    decide +kernel
  refine ⟨"const u = [".toList, ?_, stops_at last (by decide +kernel)⟩
  rw [mask_of_plain plain, start, List.append_assoc, List.append_assoc]
  rfl

theorem completions_importing {env : Environment} (knows : KnowsUniverse env tickers)
    (ascii : ∀ ticker ∈ tickers, IsAsciiName ticker) {rest stem : Text}
    (within : ∀ c ∈ stem, Text.isNameChar c = true) (types : TypesInstrument rest stem)
    {path : String} (read : env.files.read? path = some (importing rest)) :
    env.completions path (importing rest).length =
      Structural.select stem (tickers.map fun name => (name, "enum member")) := by
  obtain ⟨front, split, ends⟩ := types
  have typing : Structural.typingAt (importing (mask rest)) =
      .property "Instrument".toList stem := by
    rw [split, importing, ← List.append_assoc]
    refine Structural.typingAt_property ?_ isName_instrument within
    have last : importLine.getLast? = some '\n' := by decide +kernel
    rw [List.getLast?_append]
    cases final : front.getLast? with
    | none => exact stops_at last (by decide +kernel)
    | some c => exact stops_at rfl (ends c final)
  have whole : (importing (mask rest)).take (importing rest).length = importing (mask rest) := by
    refine List.take_of_length_le (Nat.le_of_eq ?_)
    rw [← mask_importing, mask_length]
  obtain ⟨⟨binding, bound, declared⟩, _⟩ := resolution_importing knows.holds (mask rest)
  have enum : binding.declaration.isEnum = true := by rw [declared]; rfl
  have members : binding.declaration.members = tickers := by
    rw [declared, members_instruments ascii]
  have candidates : Structural.propertyCandidates
      (Resolution.ofScript env.files (importing (mask rest))) "Instrument".toList =
        tickers.map fun name => (name, "enum member") := by
    simp only [Structural.propertyCandidates, bound, enum, members, if_pos]
  rw [Environment.completions, Environment.answers, knows.live, knows.structural,
    if_neg Bool.false_ne_true]
  simp only [Structural.service, read, Option.map_some, Option.getD_some, Structural.Study.answers,
    Structural.Study.completionsAt, Structural.Study.ofScript, mask_importing, whole, typing,
    candidates]

theorem slice_listing (name : Text) :
    (importing (listing name)).slice listedPlace (listedPlace + name.length) = name := by
  have split : importing (listing name) = (importing listStart ++ name) ++ "];".toList := by
    simp only [importing, listing, List.append_assoc]
  have stop : (importing listStart ++ name).length = listedPlace + name.length := by
    rw [List.length_append, listedPlace]
  have start : (importing listStart).length = listedPlace := rfl
  rw [split, Text.slice, List.take_left' stop, List.drop_left' start]

/-- A script that imports the instruments knows the tickers and no other names. In a list of one
instrument nothing is reported if it is a ticker, else its name alone; and behind `Instrument` and a
point the tickers that begin with the stem are offered, each once and in ascending order. -/
theorem tickers_known {env : Environment} (knows : KnowsUniverse env tickers)
    (ascii : ∀ ticker ∈ tickers, IsAsciiName ticker) (path : String) :
    (∀ name, IsAsciiName name → env.files.read? path = some (importing (listing name)) →
      env.findings path =
          (if name ∈ tickers then []
          else [.error listedPlace name.length 2339
            s!"Property '{String.ofList name}' does not exist on type 'typeof Instrument'."]) ∧
        (importing (listing name)).slice listedPlace (listedPlace + name.length) = name) ∧
    ∀ stem : Text, (∀ c ∈ stem, Text.isNameChar c = true) →
      TypesInstrument (listStart ++ stem) stem ∧
      ∀ rest, TypesInstrument rest stem → env.files.read? path = some (importing rest) →
        ∃ names : List Text,
          env.completions path (importing rest).length =
            names.map (fun name => ⟨String.ofList name, "enum member"⟩) ∧
          names.Pairwise (· < ·) ∧ ∀ name, name ∈ names ↔ name ∈ tickers ∧ stem <+: name := by
  constructor
  · intro name named read
    exact ⟨findings_listing knows ascii named read, slice_listing name⟩
  · intro stem within
    refine ⟨typesInstrument_listStart within, ?_⟩
    intro rest types read
    obtain ⟨chosen, selected, ascending, sound, complete⟩ :=
      Structural.select_eq stem (tickers.map fun name => (name, "enum member"))
    have from_ticker {candidate : Text × String} (kept : candidate ∈ chosen) :
        candidate.1 ∈ tickers ∧ candidate.2 = "enum member" := by
      obtain ⟨ticker, held, rfl⟩ := List.mem_map.mp (sound candidate kept).1
      exact ⟨held, rfl⟩
    refine ⟨chosen.map Prod.fst, ?_, List.pairwise_map.mpr ascending, ?_⟩
    · rw [completions_importing knows ascii within types read, selected, List.map_map]
      refine List.map_congr_left ?_
      intro candidate kept
      simp only [Function.comp, (from_ticker kept).2]
    · intro name
      constructor
      · intro offered
        obtain ⟨candidate, kept, rfl⟩ := List.mem_map.mp offered
        exact ⟨(from_ticker kept).1, (sound candidate kept).2⟩
      · rintro ⟨held, fits⟩
        exact complete (name, "enum member") (List.mem_map_of_mem held) fits

def someTickers : List Text := ["enum".toList, "BTC".toList, "enum".toList, "$x".toList]

/-- A sandbox with the module of these tickers, a script that lists another instrument, and one in
which an instrument is being typed. -/
def someSandbox : Environment :=
  let library := ((FileSystem.onSnapshot .empty).write universePath (universeModule someTickers)).1
  let listed := (library.write "/a.ts" (importing (listing "ETH".toList))).1
  .create "some" (listed.write "/b.ts" (importing (listStart ++ "e".toList))).1 Structural.service

theorem keyword_ticker_known :
    KnowsUniverse someSandbox someTickers ∧ (∀ ticker ∈ someTickers, IsAsciiName ticker) ∧
      someSandbox.findings "/a.ts" = [.error listedPlace 3 2339
        "Property 'ETH' does not exist on type 'typeof Instrument'."] ∧
      ∃ names : List Text,
        someSandbox.completions "/b.ts" (importing (listStart ++ "e".toList)).length =
          names.map (fun name => ⟨String.ofList name, "enum member"⟩) ∧
        names.Pairwise (· < ·) ∧
        ∀ name, name ∈ names ↔ name ∈ someTickers ∧ "e".toList <+: name := by
  have ascii : ∀ ticker ∈ someTickers, IsAsciiName ticker := by decide +kernel
  have typed : someSandbox.files.read? "/b.ts" = some (importing (listStart ++ "e".toList)) :=
    FileSystem.read?_write_self _ _ _
  have listed : someSandbox.files.read? "/a.ts" = some (importing (listing "ETH".toList)) :=
    (FileSystem.read?_write_of_ne (by decide +kernel) _ _).trans
      (FileSystem.read?_write_self _ _ _)
  have held : someSandbox.files.read? universePath = some (universeModule someTickers) :=
    (FileSystem.read?_write_of_ne (by decide +kernel) _ _).trans
      ((FileSystem.read?_write_of_ne (by decide +kernel) _ _).trans
        (FileSystem.read?_write_self _ _ _))
  have knows : KnowsUniverse someSandbox someTickers := by
    refine ⟨rfl, rfl, held, ?_⟩
    intro path content other read
    apply Module.not_hasHeader_of_undeclared
    by_cases first : path = "/a.ts"
    · rw [first, listed] at read
      cases read
      decide +kernel
    by_cases second : path = "/b.ts"
    · rw [second, typed] at read
      cases read
      decide +kernel
    · have none_else : someSandbox.files.read? path = none :=
        (FileSystem.read?_write_of_ne second _ _).trans
          ((FileSystem.read?_write_of_ne first _ _).trans
            (FileSystem.read?_write_of_ne other _ _))
      rw [none_else] at read
      cases read
  have within : ∀ c ∈ "e".toList, Text.isNameChar c = true :=
    List.all_eq_true.mp (by decide +kernel)
  have unlisted : "ETH".toList ∉ someTickers := by decide +kernel
  obtain ⟨findings, _⟩ := (tickers_known knows ascii "/a.ts").1 _ (by decide +kernel) listed
  obtain ⟨types, completions⟩ := (tickers_known knows ascii "/b.ts").2 _ within
  rw [if_neg unlisted] at findings
  refine ⟨knows, ascii, findings, completions _ types typed⟩

end Library

end StrategyDesk
