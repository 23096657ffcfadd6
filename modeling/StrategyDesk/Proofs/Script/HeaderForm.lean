import StrategyDesk.Proofs.Script.ImportForm
import StrategyDesk.Proofs.Script.Occurrence
import StrategyDesk.Script.Block

/-!
# The form of the header of a module

The header of a declared module is the words `declare` and `module` and the name in quotes, with
blanks between them. The header that begins first also ends first.
-/

set_option autoImplicit false

namespace StrategyDesk.Script

/-- What stands before the name in a header, without the quote. -/
inductive IsHeaderLead : Text → Prop where
  | mk {lead gap : Text} (apart : SomeBlanks lead) (apart' : SomeBlanks gap) :
      IsHeaderLead ("declare".toList ++ (lead ++ ("module".toList ++ gap)))

/-- Whether a text is a header of the module with the given name. -/
inductive IsModuleHeader (name : Text) : Text → Prop where
  | mk {lead : Text} {first last : Char} (leads : IsHeaderLead lead)
      (opens : isPlainQuote first = true) (closes : isPlainQuote last = true) :
      IsModuleHeader name (lead ++ first :: (name ++ [last]))

variable {position : Nat} {name text : Text}

theorem moduleHeader?_sound {found after : Cursor}
    (read : moduleHeader? name ⟨position, text⟩ = some (found, after)) :
    ∃ header rest, IsModuleHeader name header ∧ text = header ++ rest ∧
      found = ⟨position + header.length, rest⟩ := by
  simp only [moduleHeader?, Option.bind_eq_bind, Option.bind_eq_some_iff, Option.pure_def,
    Option.some.injEq] at read
  obtain ⟨_, word, _, blank, _, word', _, blank', _, opening, _, title, _, closing, same⟩ := read
  obtain ⟨_, rfl, rfl⟩ := Cursor.word?_sound word
  obtain ⟨lead, _, filled, run, rfl, rfl⟩ := Cursor.blanks?_sound blank
  obtain ⟨_, rfl, rfl⟩ := Cursor.word?_sound word'
  obtain ⟨gap, _, filled', run', rfl, rfl⟩ := Cursor.blanks?_sound blank'
  obtain ⟨first, _, opens, rfl, rfl⟩ := Cursor.one?_sound opening
  obtain ⟨_, rfl, rfl⟩ := Cursor.word?_sound title
  obtain ⟨last, rest, closes, rfl, rfl⟩ := Cursor.one?_sound closing
  cases same
  refine ⟨_, rest, .mk (.mk ⟨filled, run.within⟩ ⟨filled', run'.within⟩) opens closes, ?_, ?_⟩
  · simp only [List.append_assoc, List.cons_append, List.nil_append]
  · refine congrArg (fun stop => Cursor.mk stop rest) ?_
    simp only [List.length_append, List.length_cons, List.length_nil]
    omega

theorem moduleHeader?_append {header : Text} (form : IsModuleHeader name header) (rest : Text) :
    moduleHeader? name ⟨position, header ++ rest⟩ =
      some (⟨position + header.length, rest⟩, ⟨position + header.length, rest⟩) := by
  cases form with
  | @mk _ first last leads opens closes =>
      cases leads with
      | @mk lead gap apart apart' =>
          have before_module (later : Text) :
              LongestRun Text.isBlank lead ("module".toList ++ later) :=
            longestRun_blanks apart.2 (by decide) ("odule".toList ++ later)
          have before_name := longestRun_blanks apart'.2 (isBlank_of_isPlainQuote opens)
          have stop : position + "declare".toList.length + lead.length +
              "module".toList.length + gap.length + 1 + name.length + 1 =
                position + ("declare".toList ++ (lead ++ ("module".toList ++ gap)) ++
                  first :: (name ++ [last])).length := by
            simp only [List.length_append, List.length_cons, List.length_nil]
            omega
          rw [← stop]
          simp only [moduleHeader?, List.append_assoc, List.cons_append, List.nil_append,
            Cursor.word?_append, Option.bind_eq_bind, Option.bind_some,
            Cursor.blanks?_append apart.1 (before_module _),
            Cursor.blanks?_append apart'.1 (before_name _), Cursor.one?_cons opens,
            Cursor.one?_cons closes, Option.pure_def]

theorem IsHeaderLead.unquoted {lead : Text} (leads : IsHeaderLead lead) :
    ∀ c ∈ lead, isPlainQuote c = false := by
  have of_blanks {blanks : Text} (blank : IsBlanks blanks) :
      ∀ c ∈ blanks, isPlainQuote c = false := by
    intro c inside
    by_contra quotes
    have solid := isBlank_of_isPlainQuote (Bool.not_eq_false _ ▸ quotes)
    rw [blank c inside] at solid
    cases solid
  have of_word {word : Text} (plain : word.all (fun c => !isPlainQuote c) = true) :
      ∀ c ∈ word, isPlainQuote c = false := by
    intro c inside
    simpa using List.all_eq_true.mp plain c inside
  intro c inside
  cases leads with
  | mk apart apart' =>
      simp only [List.mem_append] at inside
      rcases inside with first | leading | second | between
      · exact of_word rfl c first
      · exact of_blanks apart.2 c leading
      · exact of_word rfl c second
      · exact of_blanks apart'.2 c between

/-- Of two headers in a text, the one that does not begin later does not end later either: a quote
stands in a header only around the name, which both have. -/
theorem IsModuleHeader.ends_first {header other before rest rest' : Text}
    (form : IsModuleHeader name header) (form' : IsModuleHeader name other)
    (same : header ++ rest = before ++ (other ++ rest')) :
    header.length ≤ before.length + other.length := by
  cases form with
  | @mk lead first last leads opens closes =>
      cases form' with
      | @mk lead' first' last' leads' opens' closes' =>
          -- Else the quote before the name in the other header stands in the lead of this one.
          by_contra longer
          simp only [List.length_append, List.length_cons, List.length_nil] at longer
          have inLead : before.length + lead'.length < lead.length := by omega
          have place := congrArg (fun text : Text => text[before.length + lead'.length]?) same
          simp only [List.append_assoc, List.cons_append] at place
          rw [List.getElem?_append_left inLead, List.getElem?_append_right (by omega),
            List.getElem?_append_right (by omega)] at place
          have zero : before.length + lead'.length - before.length - lead'.length = 0 := by omega
          rw [zero, List.getElem?_cons_zero] at place
          have bare := leads.unquoted first' (List.mem_of_getElem? place)
          rw [opens'] at bare
          cases bare

theorem IsModuleHeader.read {header : Text} (form : IsModuleHeader name header) (rest : Text) :
    ∃ c later, header ++ rest = c :: later ∧ moduleHeader? name ⟨position, c :: later⟩ =
      some (⟨position + header.length, rest⟩, ⟨position + header.length, rest⟩) := by
  have read := @moduleHeader?_append position name header form rest
  cases begins : header ++ rest with
  | nil =>
      rw [begins] at read
      cases read
  | cons c later =>
      rw [begins] at read
      exact ⟨c, later, rfl, read⟩

/-- A text has no header of a module, or what is found is the first one, and what stands behind any
header stands behind that one. -/
theorem firstHeader_cases (name text : Text) :
    (∀ before header rest, text = before ++ (header ++ rest) → ¬ IsModuleHeader name header) ∧
        (occurrences anywhere (moduleHeader? name) text).head? = none ∨
      ∃ before header rest, text = before ++ (header ++ rest) ∧ IsModuleHeader name header ∧
        (occurrences anywhere (moduleHeader? name) text).head? =
          some ⟨before.length + header.length, rest⟩ ∧
        ∀ before' header' rest', text = before' ++ (header' ++ rest') →
          IsModuleHeader name header' → rest' <:+ rest := by
  rcases @head?_occurrencesFrom_anywhere _ (moduleHeader? name) 0 none text with
    ⟨unread, none_found⟩ | ⟨first, c, later, found, after, split, read, earliest, head⟩
  · refine Or.inl ⟨?_, none_found⟩
    intro before header rest split form
    obtain ⟨c, later, begins, read⟩ := @IsModuleHeader.read (0 + before.length) name header form rest
    rw [begins] at split
    rw [unread before c later split] at read
    cases read
  · obtain ⟨header, rest, form, begins, rfl⟩ := moduleHeader?_sound read
    rw [begins] at split
    rw [Nat.zero_add] at head
    refine Or.inr ⟨first, header, rest, split, form, head, ?_⟩
    intro before' header' rest' split' form'
    obtain ⟨d, later', begins', read'⟩ :=
      @IsModuleHeader.read (0 + before'.length) name header' form' rest'
    have reached : first.length ≤ before'.length := by
      by_contra sooner
      rw [earliest before' d later' (begins' ▸ split') (by omega)] at read'
      cases read'
    have both : first ++ (header ++ rest) = before' ++ (header' ++ rest') := split ▸ split'
    obtain ⟨between, rfl⟩ : first <+: before' :=
      List.prefix_of_prefix_length_le ⟨_, rfl⟩ ⟨_, both.symm⟩ reached
    rw [List.append_assoc] at both
    have tails := List.append_cancel_left both
    have ends := form.ends_first form' tails
    have lengths := congrArg List.length tails
    simp only [List.length_append] at lengths
    refine List.suffix_of_suffix_length_le ⟨between ++ header', ?_⟩ ⟨header, tails⟩ (by omega)
    rw [List.append_assoc]

theorem Cursor.block?_isSome_iff (cursor : Cursor) :
    cursor.block?.isSome = true ↔ '\x7b' ∈ cursor.rest := by
  obtain ⟨position, text⟩ := cursor
  obtain ⟨taken, rest, rfl, run⟩ := exists_longestRun (· != '\x7b') text
  have unopened : '\x7b' ∉ taken := fun inside => absurd (run.within _ inside) (by decide)
  simp only [block?, run_append run, List.mem_append, unopened, false_or]
  cases rest with
  | nil => simp [one?]
  | cons c rest =>
      have opens : c = '\x7b' := by
        have stops := run.stops c rfl
        simpa using stops
      rw [opens, one?_char]
      simp

end StrategyDesk.Script
