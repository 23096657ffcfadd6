import StrategyDesk.Proofs.Script.Reading
import StrategyDesk.Script.Statement

/-!
# The form of an import statement

An import statement is the word `import`, blanks, a clause or none, and a name in quotes. What is
read as one is said here without a reader. It depends on the text of the statement alone, so the
same text is read as the same statement whatever follows it.
-/

set_option autoImplicit false

namespace StrategyDesk.Script

def IsBlanks (text : Text) : Prop := ∀ c ∈ text, Text.isBlank c = true

structure SomeBlanks (text : Text) : Prop where
  filled : text ≠ []
  blank : IsBlanks text

theorem longestRun_blanks {taken : Text} (blank : IsBlanks taken) {c : Char}
    (solid : Text.isBlank c = false) (rest : Text) :
    LongestRun Text.isBlank taken (c :: rest) := LongestRun.of_stop blank solid rest

theorem longestRun_name {name lead : Text} (named : IsName name) (apart : SomeBlanks lead)
    (rest : Text) : LongestRun Text.isNameChar name (lead ++ rest) := by
  cases lead with
  | nil => exact absurd rfl apart.filled
  | cons c lead =>
      have ends : Text.isNameChar c = false :=
        Text.isNameChar_of_isBlank (apart.blank c List.mem_cons_self)
      exact LongestRun.of_stop named.2 ends _

theorem isBlank_of_isPlainQuote {c : Char} (quotes : isPlainQuote c = true) :
    Text.isBlank c = false := by
  simp only [isPlainQuote, Bool.or_eq_true, beq_iff_eq] at quotes
  rcases quotes with rfl | rfl
  · decide
  · decide

theorem longestRun_blanks_name {lead name : Text} (blank : IsBlanks lead) (named : IsName name)
    (rest : Text) : LongestRun Text.isBlank lead (name ++ rest) := by
  obtain ⟨c, later, rfl, starts⟩ := named.head
  refine longestRun_blanks blank ?_ (later ++ rest)
  by_contra solid
  have continues := Text.isNameChar_of_isNameStart starts
  rw [Text.isNameChar_of_isBlank (Bool.not_eq_false _ ▸ solid)] at continues
  cases continues

theorem longestRun_blanks_word {lead : Text} (blank : IsBlanks lead) (rest : Text) :
    LongestRun Text.isBlank lead ("from".toList ++ rest) :=
  longestRun_blanks blank (by decide) ("rom".toList ++ rest)

/-- What stands between the blanks after `import` and the name of the module, at a position, and
the list of names in it. -/
inductive IsClause (position : Nat) : Text → Option Span → Prop where
  | bare : IsClause position [] none
  | named {names lead trail : Text} (unclosed : '\x7d' ∉ names) (leads : IsBlanks lead)
      (trails : IsBlanks trail) :
      IsClause position
        ('\x7b' :: (names ++ '\x7d' :: (lead ++ ("from".toList ++ trail))))
        (some ⟨position + 1, names⟩)
  | whole {first second name third trail : Text} (apart : SomeBlanks first)
      (apart' : SomeBlanks second) (named : IsName name)
      (apart'' : SomeBlanks third) (trails : IsBlanks trail) :
      IsClause position
        ('*' :: (first ++ ("as".toList ++ (second ++ (name ++ (third ++
          ("from".toList ++ trail))))))) none
  | one {name lead trail : Text} (named : IsName name) (apart : SomeBlanks lead)
      (trails : IsBlanks trail) :
      IsClause position (name ++ (lead ++ ("from".toList ++ trail))) none

theorem longestRun_blanks_clause {position : Nat} {lead clause : Text} {names : Option Span}
    (blank : IsBlanks lead) (form : IsClause position clause names) {quote : Char}
    (opens : isPlainQuote quote = true) (rest : Text) :
    LongestRun Text.isBlank lead (clause ++ quote :: rest) := by
  cases form with
  | bare => exact longestRun_blanks blank (isBlank_of_isPlainQuote opens) rest
  | named => exact longestRun_blanks blank (by decide) _
  | whole => exact longestRun_blanks blank (by decide) _
  | one named =>
      rw [List.append_assoc]
      exact longestRun_blanks_name blank named _

/-- Whether a text is an import statement, and which one, when it stands at a position. -/
inductive IsImport (position : Nat) : Text → ImportStatement → Prop where
  | mk {lead clause name : Text} {names : Option Span} {first last : Char}
      (apart : SomeBlanks lead)
      (form : IsClause (position + "import".toList.length + lead.length) clause names)
      (opens : isPlainQuote first = true) (filled : name ≠ [])
      (unquoted : ∀ c ∈ name, isPlainQuote c = false) (closes : isPlainQuote last = true) :
      IsImport position ("import".toList ++ (lead ++ (clause ++ first :: (name ++ [last]))))
        ⟨names, ⟨position + "import".toList.length + lead.length + clause.length + 1, name⟩⟩

namespace ImportStatement

variable {position : Nat} {text : Text}

theorem specifier?_append {name : Text} {first last : Char} (opens : isPlainQuote first = true)
    (filled : name ≠ []) (unquoted : ∀ c ∈ name, isPlainQuote c = false)
    (closes : isPlainQuote last = true) (rest : Text) :
    specifier? ⟨position, first :: (name ++ last :: rest)⟩ =
      some (⟨position + 1, name⟩, ⟨position + 1 + name.length + 1, rest⟩) := by
  have run : LongestRun (fun c => !isPlainQuote c) name (last :: rest) := by
    refine LongestRun.of_stop ?_ ?_ rest
    · intro c inside
      simp [unquoted c inside]
    · simp [closes]
  simp only [specifier?, Option.bind_eq_bind, Option.bind_some, Cursor.one?_cons opens,
    Cursor.run?_append filled run, Cursor.one?_cons closes, Option.pure_def]

theorem specifier?_sound {specifier : Span} {after : Cursor}
    (found : specifier? ⟨position, text⟩ = some (specifier, after)) :
    ∃ first name last rest, isPlainQuote first = true ∧ name ≠ [] ∧
      (∀ c ∈ name, isPlainQuote c = false) ∧ isPlainQuote last = true ∧
      text = first :: (name ++ last :: rest) ∧ specifier = ⟨position + 1, name⟩ ∧
      after = ⟨position + 1 + name.length + 1, rest⟩ := by
  simp only [specifier?, Option.bind_eq_bind, Option.bind_eq_some_iff, Option.pure_def,
    Option.some.injEq] at found
  obtain ⟨_, opening, ⟨_, _⟩, between, _, closing, same⟩ := found
  obtain ⟨first, _, opens, rfl, rfl⟩ := Cursor.one?_sound opening
  obtain ⟨name, _, filled, run, rfl, rfl, rfl⟩ := Cursor.run?_sound between
  obtain ⟨last, rest, closes, rfl, rfl⟩ := Cursor.one?_sound closing
  cases same
  refine ⟨first, name, last, rest, opens, filled, ?_, closes, rfl, rfl, rfl⟩
  intro c inside
  simpa using run.within c inside

/-- Whether a clause goes from a position of a text up to a cursor. -/
def ClauseUpTo (position : Nat) (text : Text) (names : Option Span) (after : Cursor) : Prop :=
  ∃ clause, IsClause position clause names ∧ text = clause ++ after.rest ∧
    after.position = position + clause.length

theorem namedClause?_append {names lead trail : Text} (unclosed : '\x7d' ∉ names)
    (leads : IsBlanks lead) (trails : IsBlanks trail) {quote : Char}
    (opens : isPlainQuote quote = true) (rest : Text) :
    namedClause? ⟨position, '\x7b' :: (names ++ '\x7d' :: (lead ++ ("from".toList ++
      (trail ++ quote :: rest))))⟩ =
      some (some ⟨position + 1, names⟩, ⟨position + 1 + names.length + 1 + lead.length +
        "from".toList.length + trail.length, quote :: rest⟩) := by
  have listed (later : Text) : LongestRun (· != '\x7d') names ('\x7d' :: later) := by
    refine LongestRun.of_stop ?_ rfl later
    intro c inside
    refine bne_iff_ne.mpr ?_
    intro closes
    exact unclosed (closes ▸ inside)
  have leading := longestRun_blanks_word leads (trail ++ quote :: rest)
  have trailing := longestRun_blanks trails (isBlank_of_isPlainQuote opens) rest
  simp only [namedClause?, Option.bind_eq_bind, Option.bind_some, Cursor.one?_char,
    Cursor.run_append (listed _), Cursor.blanks_append leading, Cursor.word?_append,
    Cursor.blanks_append trailing, Option.pure_def]

theorem namedClause?_sound {names : Option Span} {after : Cursor}
    (found : namedClause? ⟨position, text⟩ = some (names, after)) :
    ClauseUpTo position text names after := by
  simp only [namedClause?, Option.bind_eq_bind, Option.bind_eq_some_iff, Option.pure_def,
    Option.some.injEq] at found
  obtain ⟨_, opening, _, closing, cursor, word, same⟩ := found
  obtain ⟨c, inner, opens, rfl, rfl⟩ := Cursor.one?_sound opening
  obtain ⟨names, _, rfl, listed⟩ := exists_longestRun (· != '\x7d') inner
  rw [Cursor.run_append listed] at closing same
  obtain ⟨d, outer, closes, rfl, rfl⟩ := Cursor.one?_sound closing
  obtain ⟨lead, _, rfl, leading⟩ := exists_longestRun Text.isBlank outer
  rw [Cursor.blanks_append leading] at word
  obtain ⟨later, rfl, rfl⟩ := Cursor.word?_sound word
  obtain ⟨trail, rest, rfl, trailing⟩ := exists_longestRun Text.isBlank later
  rw [Cursor.blanks_append trailing] at same
  cases same
  cases beq_iff_eq.mp opens
  cases beq_iff_eq.mp closes
  have unclosed : '\x7d' ∉ names := fun inside => absurd (listed.within _ inside) (by decide)
  refine ⟨_, .named unclosed leading.within trailing.within, ?_, ?_⟩
  · simp only [List.cons_append, List.append_assoc]
  · simp only [List.length_cons, List.length_append]
    omega

theorem wholeClause?_append {first second name third trail : Text}
    (apart : SomeBlanks first) (apart' : SomeBlanks second)
    (named : IsName name) (apart'' : SomeBlanks third) (trails : IsBlanks trail)
    {quote : Char} (opens : isPlainQuote quote = true) (rest : Text) :
    wholeClause? ⟨position, '*' :: (first ++ ("as".toList ++ (second ++ (name ++ (third ++
      ("from".toList ++ (trail ++ quote :: rest)))))))⟩ =
      some (none, ⟨position + 1 + first.length + "as".toList.length + second.length +
        name.length + third.length + "from".toList.length + trail.length, quote :: rest⟩) := by
  have before_as (later : Text) : LongestRun Text.isBlank first ("as".toList ++ later) :=
    longestRun_blanks apart.2 (by decide) ("s".toList ++ later)
  have before_name := longestRun_blanks_name apart'.2 named
  have before_from := longestRun_blanks_word apart''.2
  have trailing := longestRun_blanks trails (isBlank_of_isPlainQuote opens) rest
  simp only [wholeClause?, Option.bind_eq_bind, Option.bind_some, Cursor.one?_char,
    Cursor.blanks?_append apart.1 (before_as _), Cursor.word?_append,
    Cursor.blanks?_append apart'.1 (before_name _),
    Cursor.name?_append named (longestRun_name named apart'' _),
    Cursor.blanks?_append apart''.1 (before_from _), Cursor.blanks_append trailing,
    Option.pure_def]

theorem wholeClause?_sound {names : Option Span} {after : Cursor}
    (found : wholeClause? ⟨position, text⟩ = some (names, after)) :
    ClauseUpTo position text names after := by
  simp only [wholeClause?, Option.bind_eq_bind, Option.bind_eq_some_iff, Option.pure_def,
    Option.some.injEq] at found
  obtain ⟨_, star, _, gap, _, word, _, gap', ⟨_, _⟩, title, _, gap'', cursor, word', same⟩ := found
  obtain ⟨c, _, stars, rfl, rfl⟩ := Cursor.one?_sound star
  obtain ⟨first, _, filled, run, rfl, rfl⟩ := Cursor.blanks?_sound gap
  obtain ⟨_, rfl, rfl⟩ := Cursor.word?_sound word
  obtain ⟨second, _, filled', run', rfl, rfl⟩ := Cursor.blanks?_sound gap'
  obtain ⟨name, _, named, _, rfl, _, rfl⟩ := Cursor.name?_sound title
  obtain ⟨third, _, filled'', run'', rfl, rfl⟩ := Cursor.blanks?_sound gap''
  obtain ⟨later, rfl, rfl⟩ := Cursor.word?_sound word'
  obtain ⟨trail, rest, rfl, trailing⟩ := exists_longestRun Text.isBlank later
  rw [Cursor.blanks_append trailing] at same
  cases same
  cases beq_iff_eq.mp stars
  refine ⟨_, .whole ⟨filled, run.within⟩ ⟨filled', run'.within⟩ named ⟨filled'', run''.within⟩
    trailing.within, ?_, ?_⟩
  · simp only [List.cons_append, List.append_assoc]
  · simp only [List.length_cons, List.length_append]
    omega

theorem defaultClause?_append {name lead trail : Text} (named : IsName name)
    (apart : SomeBlanks lead) (trails : IsBlanks trail) {quote : Char}
    (opens : isPlainQuote quote = true) (rest : Text) :
    defaultClause? ⟨position, name ++ (lead ++ ("from".toList ++ (trail ++ quote :: rest)))⟩ =
      some (none, ⟨position + name.length + lead.length + "from".toList.length + trail.length,
        quote :: rest⟩) := by
  have before_from := longestRun_blanks_word apart.2
  have trailing := longestRun_blanks trails (isBlank_of_isPlainQuote opens) rest
  simp only [defaultClause?, Option.bind_eq_bind, Option.bind_some,
    Cursor.name?_append named (longestRun_name named apart _), Cursor.word?_append,
    Cursor.blanks?_append apart.1 (before_from _), Cursor.blanks_append trailing,
    Option.pure_def]

theorem defaultClause?_sound {names : Option Span} {after : Cursor}
    (found : defaultClause? ⟨position, text⟩ = some (names, after)) :
    ClauseUpTo position text names after := by
  simp only [defaultClause?, Option.bind_eq_bind, Option.bind_eq_some_iff, Option.pure_def,
    Option.some.injEq] at found
  obtain ⟨⟨_, _⟩, title, _, gap, cursor, word, same⟩ := found
  obtain ⟨name, _, named, _, rfl, _, rfl⟩ := Cursor.name?_sound title
  obtain ⟨lead, _, filled, run, rfl, rfl⟩ := Cursor.blanks?_sound gap
  obtain ⟨later, rfl, rfl⟩ := Cursor.word?_sound word
  obtain ⟨trail, rest, rfl, trailing⟩ := exists_longestRun Text.isBlank later
  rw [Cursor.blanks_append trailing] at same
  cases same
  refine ⟨_, .one named ⟨filled, run.within⟩ trailing.within, ?_, ?_⟩
  · simp only [List.append_assoc]
  · simp only [List.length_append]
    omega

/-- The clause that `read?` takes, the bare one if there is no other. -/
def clauseAt (cursor : Cursor) : Option Span × Cursor :=
  (namedClause? cursor <|> wholeClause? cursor <|> defaultClause? cursor).getD (none, cursor)

theorem clauseAt_sound (position : Nat) (text : Text) :
    ClauseUpTo position text (clauseAt ⟨position, text⟩).1 (clauseAt ⟨position, text⟩).2 := by
  rw [clauseAt]
  cases named : namedClause? ⟨position, text⟩ with
  | some found => exact namedClause?_sound named
  | none =>
      cases whole : wholeClause? ⟨position, text⟩ with
      | some found => exact wholeClause?_sound whole
      | none =>
          cases one : defaultClause? ⟨position, text⟩ with
          | some found => exact defaultClause?_sound one
          | none => exact ⟨[], .bare, rfl, rfl⟩

theorem clauses_apart {c : Char} (later : Text) :
    (c ≠ '\x7b' → namedClause? ⟨position, c :: later⟩ = none) ∧
      (c ≠ '*' → wholeClause? ⟨position, c :: later⟩ = none) ∧
      (Text.isNameStart c = false → defaultClause? ⟨position, c :: later⟩ = none) := by
  refine ⟨?_, ?_, ?_⟩
  · intro other
    simp [namedClause?, Cursor.one?, other]
  · intro other
    simp [wholeClause?, Cursor.one?, other]
  · intro other
    simp [defaultClause?, Cursor.name?, other]

theorem isNameStart_of_isPlainQuote {c : Char} (quotes : isPlainQuote c = true) :
    Text.isNameStart c = false ∧ c ≠ '\x7b' ∧ c ≠ '*' := by
  simp only [isPlainQuote, Bool.or_eq_true, beq_iff_eq] at quotes
  rcases quotes with rfl | rfl
  · decide
  · decide

theorem clauseAt_append {clause : Text} {names : Option Span}
    (form : IsClause position clause names) {quote : Char} (opens : isPlainQuote quote = true)
    (rest : Text) :
    clauseAt ⟨position, clause ++ quote :: rest⟩ =
      (names, ⟨position + clause.length, quote :: rest⟩) := by
  cases form with
  | bare =>
      obtain ⟨no_name, no_brace, no_star⟩ := isNameStart_of_isPlainQuote opens
      obtain ⟨named, whole, one⟩ := @clauses_apart position quote rest
      rw [clauseAt, List.nil_append, named no_brace, whole no_star, one no_name]
      rfl
  | named unclosed leads trails =>
      have read := @namedClause?_append position _ _ _ unclosed leads trails _ opens rest
      simp only [List.cons_append, List.append_assoc, List.length_cons, List.length_append]
      rw [clauseAt, read]
      refine congrArg (fun stop => (_, Cursor.mk stop _)) ?_
      omega
  | whole apart apart' named apart'' trails =>
      have read :=
        @wholeClause?_append position _ _ _ _ _ apart apart' named apart'' trails _ opens rest
      obtain ⟨no_names, _, _⟩ := @clauses_apart position '*' _
      simp only [List.cons_append, List.append_assoc, List.length_cons, List.length_append]
      rw [clauseAt, no_names (by decide), read]
      refine congrArg (fun stop => (_, Cursor.mk stop _)) ?_
      omega
  | one named apart trails =>
      have read := @defaultClause?_append position _ _ _ named apart trails _ opens rest
      obtain ⟨c, later, rfl, starts⟩ := named.head
      obtain ⟨no_names, no_whole, _⟩ := @clauses_apart position c _
      have no_brace : c ≠ '\x7b' := by
        rintro rfl
        cases starts
      have no_star : c ≠ '*' := by
        rintro rfl
        cases starts
      simp only [List.cons_append, List.append_assoc, List.length_cons, List.length_append] at read ⊢
      rw [clauseAt, no_names no_brace, no_whole no_star, read]
      refine congrArg (fun stop => (_, Cursor.mk stop _)) ?_
      omega

theorem read?_eq_bind (cursor : Cursor) :
    read? cursor = (cursor.word? "import".toList).bind fun cursor => cursor.blanks?.bind
      fun cursor => (specifier? (clauseAt cursor).2).bind fun (specifier, after) =>
        some (⟨(clauseAt cursor).1, specifier⟩, after) := rfl

theorem read?_sound {statement : ImportStatement} {after : Cursor}
    (found : read? ⟨position, text⟩ = some (statement, after)) :
    ∃ taken, IsImport position taken statement ∧ text = taken ++ after.rest ∧
      after.position = position + taken.length := by
  rw [read?_eq_bind] at found
  simp only [Option.bind_eq_some_iff, Option.some.injEq] at found
  obtain ⟨_, word, _, gap, ⟨specifier, _⟩, module, same⟩ := found
  obtain ⟨_, rfl, rfl⟩ := Cursor.word?_sound word
  obtain ⟨lead, inner, filled, run, rfl, rfl⟩ := Cursor.blanks?_sound gap
  obtain ⟨clause, form, split, stop⟩ := clauseAt_sound _ inner
  obtain ⟨first, name, last, rest, opens, filled', unquoted, closes, later, rfl, rfl⟩ :=
    specifier?_sound module
  cases same
  rw [later] at split
  rw [stop]
  subst split
  refine ⟨_, .mk ⟨filled, run.within⟩ form opens filled' unquoted closes, ?_, ?_⟩
  · simp only [List.append_assoc, List.cons_append, List.nil_append]
  · simp only [List.length_append, List.length_cons, List.length_nil]
    omega

theorem read?_append {taken : Text} {statement : ImportStatement}
    (form : IsImport position taken statement) (rest : Text) :
    read? ⟨position, taken ++ rest⟩ = some (statement, ⟨position + taken.length, rest⟩) := by
  cases form with
  | @mk lead clause name names first last apart form opens filled unquoted closes =>
      have leading := longestRun_blanks_clause apart.2 form opens (name ++ last :: rest)
      have stop : position + "import".toList.length + lead.length + clause.length + 1 +
          name.length + 1 = position + ("import".toList ++ (lead ++ (clause ++
            first :: (name ++ [last])))).length := by
        simp only [List.length_append, List.length_cons, List.length_nil]
        omega
      simp only [read?_eq_bind, List.append_assoc, List.cons_append, List.nil_append,
        Cursor.word?_append, Option.bind_some, Cursor.blanks?_append apart.1 leading,
        clauseAt_append form opens, specifier?_append opens filled unquoted closes, stop]

end ImportStatement

end StrategyDesk.Script
