import StrategyDesk.Proofs.Script.Literal

/-!
# A search part by part

A search for a form goes over a text from left to right. Over a part in which the form is read
nowhere the search passes, and where the form is read it goes on behind what was taken. Names are
the parts that most forms are made of: in a run of name characters a form with keywords or points is
read at few places.
-/

set_option autoImplicit false

namespace StrategyDesk.Script

/-! ## Parts that are passed, and parts that are read -/

section

variable {α : Type} {admits : Option Char → Bool} {read? : Cursor → Option (α × Cursor)}

theorem occurrencesFrom_skip (taken : Text) (position : Nat) (before : Option Char)
    (rest : Text) :
    occurrencesFrom admits read? taken.length position before (taken ++ rest) =
      occurrencesFrom admits read? 0 (position + taken.length) (taken.getLast?.or before) rest := by
  induction taken generalizing position before with
  | nil => rfl
  | cons c taken hypothesis =>
      rw [place_cons, getLast?_cons_or, ← hypothesis]
      rfl

theorem occurrencesFrom_read {position : Nat} {before : Option Char} {taken rest : Text}
    {found : α} (filled : taken ≠ []) (admitted : admits before = true)
    (read : read? ⟨position, taken ++ rest⟩ = some (found, ⟨position + taken.length, rest⟩)) :
    occurrencesFrom admits read? 0 position before (taken ++ rest) =
      found :: occurrencesFrom admits read? 0 (position + taken.length) taken.getLast? rest := by
  cases taken with
  | nil => exact absurd rfl filled
  | cons c taken =>
      have left : position + 1 + taken.length - position - 1 = taken.length := by omega
      have last := getLast?_cons_or c taken none
      rw [Option.or_none] at last
      rw [place_cons] at read ⊢
      rw [List.cons_append] at read ⊢
      rw [occurrencesFrom_cons_of_some admitted read, left, occurrencesFrom_skip, last]

theorem occurrencesFrom_unread_part {position : Nat} {before : Option Char} {part rest : Text}
    (unread : ∀ first c later, part = first ++ c :: later →
      read? ⟨position + first.length, c :: (later ++ rest)⟩ = none) :
    occurrencesFrom admits read? 0 position before (part ++ rest) =
      occurrencesFrom admits read? 0 (position + part.length) (part.getLast?.or before) rest := by
  induction part generalizing position before with
  | nil => rfl
  | cons c part hypothesis =>
      have here : read? ⟨position, c :: (part ++ rest)⟩ = none := unread [] c part rfl
      rw [List.cons_append, occurrencesFrom_cons_of_none fun _ => here, place_cons,
        getLast?_cons_or]
      refine hypothesis ?_
      intro first d later split
      rw [← place_cons position c]
      exact unread (c :: first) d later (by rw [split, List.cons_append])

theorem occurrencesFrom_eq_nil {position : Nat} {before : Option Char} {text : Text}
    (unread : ∀ first rest, text = first ++ rest →
      read? ⟨position + first.length, rest⟩ = none) :
    occurrencesFrom admits read? 0 position before text = [] := by
  rw [List.eq_nil_iff_forall_not_mem]
  intro found occurs
  obtain ⟨first, rest, after, split, read⟩ := exists_of_mem_occurrencesFrom occurs
  rw [unread first rest split] at read
  cases read

end

theorem stops_at {p : Char → Bool} {c : Char} {place : Option Char} (there : place = some c)
    (stop : p c = false) : ∀ d ∈ place, p d = false := by
  intro d held
  rw [there] at held
  cases held
  exact stop

theorem plain_of_isNameChar {c : Char} (continues : Text.isNameChar c = true) :
    (!isQuote c && c != '/') = true := by
  have slash : Text.isNameChar '/' = false := by decide +kernel
  rw [Bool.and_eq_true, Bool.not_eq_true', bne_iff_ne]
  constructor
  · by_contra quotes
    rw [isNameChar_of_isQuote (Bool.not_eq_false _ ▸ quotes)] at continues
    cases continues
  · rintro rfl
    rw [slash] at continues
    cases continues

/-! ## Names of ASCII characters -/

def isAsciiNameChar (c : Char) : Bool := c.isAlphanum || c == '_' || c == '$'

/-- Whether a text is a name in ASCII: it begins with a letter, `_` or `$`, and goes on with such
characters and digits. -/
structure IsAsciiName (name : Text) : Prop where
  starts : ∃ c ∈ name.head?, Text.isNameStart c = true
  within : ∀ c ∈ name, isAsciiNameChar c = true

theorem isAsciiName_iff (name : Text) : IsAsciiName name ↔
    (name.head?.any Text.isNameStart && name.all isAsciiNameChar) = true := by
  rw [Bool.and_eq_true, Option.any_eq_true, List.all_eq_true]
  exact ⟨fun named => ⟨named.starts, named.within⟩, fun both => ⟨both.1, both.2⟩⟩

instance (name : Text) : Decidable (IsAsciiName name) :=
  decidable_of_iff _ (isAsciiName_iff name).symm

theorem covers_of_isDigit {c : Char} (digit : c.isDigit = true) :
    Text.covers Text.decimalRanges c.toNat = true := by
  obtain ⟨later, ranges⟩ : ∃ later, Text.decimalRanges = (0x30, 0x39) :: later := ⟨_, rfl⟩
  simp only [Char.isDigit, Bool.and_eq_true, decide_eq_true_eq] at digit
  have low : 48 ≤ c.toNat := digit.1
  have high : c.toNat ≤ 57 := digit.2
  have above : ¬ c.toNat < 48 := by omega
  rw [ranges, Text.covers]
  simp [above, high]

theorem isAsciiNameChar_cases {c : Char} (ascii : isAsciiNameChar c = true) :
    c.isAlpha = true ∨ c.isDigit = true ∨ c = '_' ∨ c = '$' := by
  simp only [isAsciiNameChar, Char.isAlphanum, Bool.or_eq_true, beq_iff_eq] at ascii
  rcases ascii with ((letter | digit) | underscore) | dollar
  · exact Or.inl letter
  · exact Or.inr (Or.inl digit)
  · exact Or.inr (Or.inr (Or.inl underscore))
  · exact Or.inr (Or.inr (Or.inr dollar))

theorem isNameChar_of_isAsciiNameChar {c : Char} (ascii : isAsciiNameChar c = true) :
    Text.isNameChar c = true := by
  rcases isAsciiNameChar_cases ascii with letter | digit | rfl | rfl
  · simp [Text.isNameChar, Text.isWordChar, Text.covers_of_isAlpha letter]
  · simp [Text.isNameChar, Text.isWordChar, covers_of_isDigit digit]
  · decide +kernel
  · decide +kernel

theorem isIdentifierChar_of_isAsciiNameChar {c : Char} (ascii : isAsciiNameChar c = true) :
    Text.isIdentifierChar c = true := by
  rcases isAsciiNameChar_cases ascii with letter | digit | rfl | rfl
  · simp [Text.isIdentifierChar, Text.isAlphanumeric, Text.covers_of_isAlpha letter]
  · simp [Text.isIdentifierChar, Text.isAlphanumeric, covers_of_isDigit digit]
  · decide +kernel
  · decide +kernel

theorem isBlank_of_isAsciiNameChar {c : Char} (ascii : isAsciiNameChar c = true) :
    Text.isBlank c = false := by
  rw [← Bool.not_eq_true]
  intro blank
  have other := Text.isNameChar_of_isBlank blank
  rw [isNameChar_of_isAsciiNameChar ascii] at other
  cases other

namespace IsAsciiName

variable {name : Text}

theorem isName (named : IsAsciiName name) : IsName name :=
  ⟨named.starts, fun c inside => isNameChar_of_isAsciiNameChar (named.within c inside)⟩

theorem isWord (named : IsAsciiName name) :
    name ≠ [] ∧ ∀ c ∈ name, Text.isIdentifierChar c = true := by
  obtain ⟨c, later, rfl, _⟩ := named.isName.head
  exact ⟨List.cons_ne_nil c later, fun d inside =>
    isIdentifierChar_of_isAsciiNameChar (named.within d inside)⟩

theorem notMem (named : IsAsciiName name) {c : Char} (other : isAsciiNameChar c = false) :
    c ∉ name := by
  intro inside
  rw [named.within c inside] at other
  cases other

end IsAsciiName

/-! ## Accesses -/

namespace Access

theorem read?_of_run {position : Nat} {taken rest : Text}
    (run : LongestRun Text.isNameChar taken rest) (no_point : ∀ c ∈ rest.head?, c ≠ '.') :
    read? ⟨position, taken ++ rest⟩ = none := by
  rw [read?_eq_bind]
  cases naming : Cursor.name? ⟨position, taken ++ rest⟩ with
  | none => rfl
  | some found =>
      obtain ⟨object, after⟩ := found
      obtain ⟨name, later, _, run', split, _, rfl⟩ := Cursor.name?_sound naming
      have same : rest = later := by
        rw [← run.dropWhile_eq, ← run'.dropWhile_eq, split]
      subst same
      cases rest with
      | nil => rfl
      | cons c rest => simp [Cursor.one?, no_point c rfl]

/-- Over a part without points the search for accesses passes, if no name goes on behind it. -/
theorem allFrom_part {position : Nat} {part rest : Text} (no_point : '.' ∉ part)
    (ends : ∀ c ∈ part.getLast?, Text.isNameChar c = false) :
    allFrom position (part ++ rest) = allFrom (position + part.length) rest := by
  rw [allFrom, occurrencesFrom_unread_part, occurrencesFrom_anywhere]
  intro first c later split
  obtain ⟨taken, left, cut, run⟩ := exists_longestRun Text.isNameChar (c :: later)
  have stopped : left ≠ [] := by
    rintro rfl
    rw [List.append_nil] at cut
    obtain ⟨last, final⟩ : ∃ last, (c :: later).getLast? = some last := ⟨_, List.getLast?_cons⟩
    have continues := run.within last (cut ▸ List.mem_of_getLast? final)
    rw [ends last (by rw [split, List.getLast?_append, final]; rfl)] at continues
    cases continues
  obtain ⟨d, left, rfl⟩ := List.exists_cons_of_ne_nil stopped
  have further : LongestRun Text.isNameChar taken (d :: (left ++ rest)) := ⟨run.within, run.stops⟩
  have inside : d ∈ part := by
    rw [split, cut]
    simp
  have read := @read?_of_run (position + first.length) _ _ further ?_
  · rw [← List.cons_append, cut, List.append_assoc]
    exact read
  · intro e same
    cases same
    rintro rfl
    exact no_point inside

theorem allFrom_eq_nil {position : Nat} {text : Text} (no_point : '.' ∉ text) :
    allFrom position text = [] := by
  rw [allFrom, occurrencesFrom_eq_nil]
  intro first rest split
  obtain ⟨taken, left, cut, run⟩ := exists_longestRun Text.isNameChar rest
  rw [cut]
  refine read?_of_run run ?_
  rintro c next rfl
  apply no_point
  rw [split, cut]
  exact List.mem_append_right _ (List.mem_append_right _ (List.mem_of_mem_head? next))

theorem allFrom_access {position : Nat} {object property rest : Text} (named : IsName object)
    (named' : IsName property) (ends : ∀ c ∈ rest.head?, Text.isNameChar c = false) :
    allFrom position (object ++ '.' :: (property ++ rest)) =
      ⟨⟨position, object⟩, ⟨position + object.length + 1, property⟩⟩ ::
        allFrom (position + object.length + 1 + property.length) rest := by
  have taken : object ++ '.' :: (property ++ rest) = (object ++ '.' :: property) ++ rest := by
    rw [List.append_assoc, List.cons_append]
  have stop : position + (object ++ '.' :: property).length =
      position + object.length + 1 + property.length := by
    rw [List.length_append, List.length_cons]
    omega
  have read := @read?_append position _ _ _ named named' ends
  rw [taken, ← stop] at read
  rw [taken, allFrom, occurrencesFrom_read (List.append_ne_nil_of_right_ne_nil object
    (List.cons_ne_nil '.' property)) rfl read, occurrencesFrom_anywhere, stop]

end Access

end StrategyDesk.Script
