import StrategyDesk.Proofs.Script.Declaration

/-!
# The members of an enumeration

The body of an enumeration is read piece by piece between commas. Each piece that is written for a
member has its name, with or without an initializer. A comma in an initializer ends the piece all
the same, so the pieces behind it are read as members too if they are words.
-/

set_option autoImplicit false

namespace StrategyDesk

namespace Text

theorem isIdentifierChar_of_isBlank {c : Char} (blank : isBlank c = true) :
    isIdentifierChar c = false := by
  have none_identified : ∀ n ∈ blankRanges.flatMap fun range =>
      List.range' range.1 (range.2 - range.1 + 1),
      (covers alphabeticRanges n || covers decimalRanges n || covers otherNumberRanges n ||
        n == '_'.toNat || n == '$'.toNat) = false := by
    decide +kernel
  have here := none_identified c.toNat (mem_of_covers blank)
  rw [Bool.or_eq_false_iff, Bool.or_eq_false_iff] at here
  obtain ⟨⟨other, no_underscore⟩, no_dollar⟩ := here
  have differs {d : Char} (apart : (c.toNat == d.toNat) = false) : (c == d) = false :=
    beq_eq_false_iff_ne.mpr fun same => beq_eq_false_iff_ne.mp apart (congrArg Char.toNat same)
  rw [isIdentifierChar, isAlphanumeric, other, differs no_underscore, differs no_dollar]
  rfl

end Text

namespace Script

/-- A member of an enumeration as it is written: its name between blanks, and what stands behind the
equals sign if there is an initializer. -/
structure WrittenMember where
  lead : Text
  name : Text
  trail : Text
  initializer : Option Text

namespace WrittenMember

def text (member : WrittenMember) : Text :=
  member.lead ++ (member.name ++ (member.trail ++ (member.initializer.map ('=' :: ·)).getD []))

structure WellFormed (member : WrittenMember) : Prop where
  leads : IsBlanks member.lead
  trails : IsBlanks member.trail
  filled : member.name ≠ []
  within : ∀ c ∈ member.name, Text.isIdentifierChar c = true

/-- What is read as further members behind the first comma of the initializer. -/
def strays (member : WrittenMember) : List Text :=
  match member.initializer with
  | none => []
  | some value => enumMembers ((value.dropWhile (· != ',')).drop 1)

end WrittenMember

/-- Whether a text is the body of an enumeration with these members, and how they are written. There
may be a comma behind the last one. -/
inductive IsEnumBody : List WrittenMember → Text → Prop where
  | blank {blanks : Text} (blank : IsBlanks blanks) : IsEnumBody [] blanks
  | last {member : WrittenMember} (formed : member.WellFormed) : IsEnumBody [member] member.text
  | more {member : WrittenMember} {members : List WrittenMember} {body : Text}
      (formed : member.WellFormed) (later : IsEnumBody members body) :
      IsEnumBody (member :: members) (member.text ++ ',' :: body)

theorem enumMembers_initializer {front : Text} (bare : '=' ∉ front) {value : Text}
    (whole : ',' ∉ front) (whole' : ',' ∉ value) :
    enumMembers (front ++ '=' :: value) = enumMembers front := by
  have run : LongestRun (· != '=') front ('=' :: value) := by
    refine .of_stop (fun c inside => bne_iff_ne.mpr ?_) rfl value
    rintro rfl
    exact bare inside
  have single : ',' ∉ front ++ '=' :: value := by
    simp [whole, whole']
  have front_alone := List.takeWhile_eq_self_iff.mpr run.within
  rw [enumMembers, enumMembers, List.splitOn_eq_singleton single, List.splitOn_eq_singleton whole]
  simp only [List.filterMap_cons, List.filterMap_nil, run.takeWhile_eq, front_alone]

theorem WrittenMember.enumMembers_text {member : WrittenMember} (formed : member.WellFormed) :
    enumMembers member.text = member.name :: member.strays := by
  obtain ⟨lead, name, trail, initializer⟩ := member
  obtain ⟨leads, trails, filled, within⟩ := formed
  dsimp only at leads trails filled within
  have solid (c : Char) (inside : c ∈ name) : Text.isBlank c = false := by
    rw [← Bool.not_eq_true]
    intro blank
    have other := Text.isIdentifierChar_of_isBlank blank
    rw [within c inside] at other
    cases other
  have absent {c : Char} (unblank : Text.isBlank c = false)
      (other : Text.isIdentifierChar c = false) : c ∉ lead ++ (name ++ trail) := by
    rw [List.mem_append, List.mem_append, not_or, not_or]
    refine ⟨notMem_of_blanks leads unblank, ?_, notMem_of_blanks trails unblank⟩
    intro inside
    rw [within c inside] at other
    cases other
  have comma : ',' ∉ lead ++ (name ++ trail) := absent (by decide) (by decide +kernel)
  have equals : '=' ∉ lead ++ (name ++ trail) := absent (by decide) (by decide +kernel)
  have alone : enumMembers (lead ++ (name ++ trail)) = [name] := by
    have identifiers : name.all Text.isIdentifierChar = true := List.all_eq_true.mpr within
    rw [enumMembers_piece comma equals, trim_append leads trails (.of_solid solid),
      if_pos ⟨filled, identifiers⟩]
  cases initializer with
  | none =>
      simp only [text, strays, Option.map_none, Option.getD_none, List.append_nil]
      exact alone
  | some value =>
      obtain ⟨first, behind, rfl, run⟩ := exists_longestRun (· != ',') value
      have whole : ',' ∉ first := fun inside => absurd (run.within ',' inside) (by decide)
      have parts : text ⟨lead, name, trail, some (first ++ behind)⟩ =
          (lead ++ (name ++ trail)) ++ '=' :: first ++ behind := by
        simp only [text, Option.map_some, Option.getD_some, List.append_assoc, List.cons_append]
      rw [parts]
      simp only [strays, run.dropWhile_eq]
      cases behind with
      | nil =>
          rw [List.append_nil, enumMembers_initializer equals comma whole, alone]
          rfl
      | cons c behind =>
          obtain rfl : c = ',' := by
            have stops := run.stops c rfl
            simpa using stops
          rw [enumMembers_comma, enumMembers_initializer equals comma whole, alone]
          rfl

/-- The members that are read in the body of an enumeration are those that are written, in order,
each with what its initializer adds. -/
theorem IsEnumBody.enumMembers_eq {members : List WrittenMember} {body : Text}
    (form : IsEnumBody members body) :
    enumMembers body = members.flatMap fun member => member.name :: member.strays := by
  induction form with
  | blank blank => exact enumMembers_blanks blank
  | last formed =>
      rw [WrittenMember.enumMembers_text formed, List.flatMap_singleton]
  | more formed later ih =>
      rw [enumMembers_comma, WrittenMember.enumMembers_text formed, ih, List.flatMap_cons]

/-! ## What is read as a member -/

/-- Whether what stands behind a text in the body of an enumeration begins a member: there are
blanks alone since the last comma, or since the brace. -/
def BeginsMember (text : Text) : Prop :=
  ∃ front lead, text = front ++ lead ∧ (∀ c ∈ front.getLast?, c = ',') ∧ IsBlanks lead

/-- Whether the name of a member ends before a text: behind blanks there is a comma, the equals sign
of an initializer, or nothing. -/
def EndsMember (text : Text) : Prop :=
  ∃ trail rest, text = trail ++ rest ∧ IsBlanks trail ∧ ∀ c ∈ rest.head?, c = ',' ∨ c = '='

theorem BeginsMember.of_blanks {blanks : Text} (blank : IsBlanks blanks) : BeginsMember blanks :=
  ⟨[], blanks, rfl, nofun, blank⟩

theorem BeginsMember.behind_comma {text : Text} (begins : BeginsMember text) (front : Text) :
    BeginsMember (front ++ ',' :: text) := by
  obtain ⟨front', lead, rfl, comma, leads⟩ := begins
  refine ⟨front ++ ',' :: front', lead, by simp, ?_, leads⟩
  intro c last
  rw [List.getLast?_append, List.getLast?_cons] at last
  obtain rfl : front'.getLast?.getD ',' = c := Option.some.inj last
  cases before : front'.getLast? with
  | none => rfl
  | some d => exact comma d before

theorem BeginsMember.behind_blanks {text : Text} (begins : BeginsMember text) {blanks : Text}
    (blank : IsBlanks blanks) : BeginsMember (blanks ++ text) := by
  obtain ⟨front, lead, rfl, comma, leads⟩ := begins
  rcases List.eq_nil_or_concat front with rfl | ⟨earlier, c, rfl⟩
  · refine ⟨[], blanks ++ lead, rfl, nofun, ?_⟩
    intro c inside
    exact (List.mem_append.mp inside).elim (blank c) (leads c)
  · rw [List.concat_eq_append] at comma ⊢
    refine ⟨blanks ++ (earlier ++ [c]), lead, (List.append_assoc _ _ _).symm, ?_, leads⟩
    simpa using comma

theorem EndsMember.before_comma {text : Text} (ends : EndsMember text) (rest : Text) :
    EndsMember (text ++ ',' :: rest) := by
  obtain ⟨trail, behind, rfl, trails, stops⟩ := ends
  refine ⟨trail, behind ++ ',' :: rest, List.append_assoc _ _ _, trails, ?_⟩
  cases behind with
  | nil => exact fun c first => Or.inl (Option.some.inj first).symm
  | cons d behind => exact stops

theorem EndsMember.solid {blanks rest : Text} {c : Char} (ends : EndsMember (blanks ++ c :: rest))
    (blank : IsBlanks blanks) (solid : Text.isBlank c = false) : c = ',' ∨ c = '=' := by
  obtain ⟨trail, behind, split, trails, stops⟩ := ends
  have run : LongestRun Text.isBlank trail behind := by
    refine ⟨trails, fun d first => ?_⟩
    rcases stops d first with rfl | rfl <;> decide
  have behind_eq : behind = c :: rest := by
    rw [← run.dropWhile_eq, ← split, (longestRun_blanks blank solid rest).dropWhile_eq]
  exact stops c (by rw [behind_eq]; rfl)

theorem enumMembers_of_comma_last {front : Text} (comma : ∀ c ∈ front.getLast?, c = ',')
    (rest : Text) : enumMembers rest ⊆ enumMembers (front ++ rest) := by
  rcases List.eq_nil_or_concat front with rfl | ⟨earlier, c, rfl⟩
  · exact List.Subset.refl _
  · rw [List.concat_eq_append] at comma ⊢
    obtain rfl : c = ',' := comma c (List.getLast?_concat ..)
    rw [List.append_assoc, List.singleton_append, enumMembers_comma]
    exact List.subset_append_right _ _

theorem exists_of_mem_single {name piece : Text} (whole : ',' ∉ piece)
    (held : name ∈ enumMembers piece) :
    (name ≠ [] ∧ ∀ c ∈ name, Text.isIdentifierChar c = true) ∧
      ∃ lead rest, piece = lead ++ (name ++ rest) ∧ IsBlanks lead ∧ EndsMember rest := by
  obtain ⟨named, behind, rfl, run⟩ := exists_longestRun (· != '=') piece
  have bare : '=' ∉ named := fun inside => absurd (run.within '=' inside) (by decide)
  rw [List.mem_append, not_or] at whole
  have initialized : ∀ c ∈ behind.head?, c = '=' := fun c first => by
    simpa using run.stops c first
  have read : enumMembers (named ++ behind) = enumMembers named := by
    cases behind with
    | nil => rw [List.append_nil]
    | cons c value =>
        cases initialized c rfl
        exact enumMembers_initializer bare whole.1 fun inside =>
          whole.2 (List.mem_cons_of_mem _ inside)
  rw [read, enumMembers_piece whole.1 bare] at held
  obtain ⟨⟨filled, within⟩, here⟩ := List.mem_ite_nil_right.mp held
  obtain ⟨lead, trail, leads, trails, split⟩ := exists_trim named
  rw [← List.mem_singleton.mp here] at filled within split
  refine ⟨⟨filled, List.all_eq_true.mp within⟩, lead, trail ++ behind, ?_, leads, trail, behind,
    rfl, trails, fun c first => Or.inr (initialized c first)⟩
  rw [split, List.append_assoc, List.append_assoc]

theorem exists_of_mem_enumMembers {name body : Text} (held : name ∈ enumMembers body) :
    (name ≠ [] ∧ ∀ c ∈ name, Text.isIdentifierChar c = true) ∧
      ∃ front rest, body = front ++ (name ++ rest) ∧ BeginsMember front ∧ EndsMember rest := by
  induction size : body.length using Nat.strong_induction_on generalizing body with
  | _ size ih =>
    obtain ⟨first, behind, rfl, run⟩ := exists_longestRun (· != ',') body
    have whole : ',' ∉ first := fun inside => absurd (run.within ',' inside) (by decide)
    cases behind with
    | nil =>
        rw [List.append_nil] at held ⊢
        obtain ⟨word, lead, rest, split, leads, ends⟩ := exists_of_mem_single whole held
        exact ⟨word, lead, rest, split, .of_blanks leads, ends⟩
    | cons c behind =>
        obtain rfl : c = ',' := by simpa using run.stops c rfl
        rw [enumMembers_comma, List.mem_append] at held
        rcases held with here | later
        · obtain ⟨word, lead, rest, rfl, leads, ends⟩ := exists_of_mem_single whole here
          refine ⟨word, lead, rest ++ ',' :: behind, ?_, .of_blanks leads, ends.before_comma behind⟩
          rw [List.append_assoc, List.append_assoc]
        · obtain ⟨word, front, rest, rfl, begins, ends⟩ := ih _ (by simp [← size]; omega) later rfl
          refine ⟨word, first ++ ',' :: front, rest, ?_, begins.behind_comma first, ends⟩
          rw [List.append_assoc, List.cons_append]

/-- The members that are read in a body are the words that stand in it between commas, with blanks
around them, and with an initializer or none. -/
theorem mem_enumMembers_iff (name body : Text) :
    name ∈ enumMembers body ↔ (name ≠ [] ∧ ∀ c ∈ name, Text.isIdentifierChar c = true) ∧
      ∃ front rest, body = front ++ (name ++ rest) ∧ BeginsMember front ∧ EndsMember rest := by
  refine ⟨exists_of_mem_enumMembers, ?_⟩
  rintro ⟨⟨filled, within⟩, _, _, rfl, ⟨front, lead, rfl, comma, leads⟩,
    trail, rest, rfl, trails, ends⟩
  have written (initializer : Option Text) :
      name ∈ enumMembers (WrittenMember.text ⟨lead, name, trail, initializer⟩) := by
    rw [WrittenMember.enumMembers_text ⟨leads, trails, filled, within⟩]
    exact List.mem_cons_self
  rw [List.append_assoc]
  refine enumMembers_of_comma_last comma _ ?_
  cases rest with
  | nil => exact written none
  | cons c rest =>
      rcases ends c rfl with rfl | rfl
      · have here := List.mem_append_left (enumMembers rest) (written none)
        rw [← enumMembers_comma] at here
        simpa [WrittenMember.text] using here
      · exact written (some rest)

end Script

end StrategyDesk
