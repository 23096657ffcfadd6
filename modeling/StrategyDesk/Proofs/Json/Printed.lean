import StrategyDesk.Proofs.Json.Tokens

/-!
# Reading printed values

The reader undoes the printer on every value that has no fractions and no integers beyond the range
of doubles. A value is read back whatever follows it, as long as that does not go on with a number;
in arrays and objects it is followed by a comma or by the closing bracket.
-/

set_option autoImplicit false

namespace StrategyDesk.Json

/-! ## Maps that may fail -/

theorem mapM_congr {α β : Type} {f g : α → Option β} {list : List α}
    (each : ∀ a ∈ list, f a = g a) : list.mapM f = list.mapM g := by
  induction list with
  | nil => rfl
  | cons a list hypothesis =>
      have later := hypothesis fun b inside => each b (List.mem_cons_of_mem a inside)
      rw [List.mapM_cons, List.mapM_cons, each a List.mem_cons_self, later]

theorem mapM_eq_map {α β : Type} {f : α → Option β} {g : α → β} {list : List α}
    (each : ∀ a ∈ list, f a = some (g a)) : list.mapM f = some (list.map g) :=
  (mapM_congr each).trans List.mapM_pure

/-! ## Values -/

inductive Plain : Json → Prop where
  | null : Plain .null
  | bool (value : Bool) : Plain (.bool value)
  | integer {value : Int} (bounded : value.natAbs < doubleBound) : Plain (.integer value)
  | string (text : String) : Plain (.string text)
  | array {items : List Json} (each : ∀ item ∈ items, Plain item) : Plain (.array items)
  | object {members : List (String × Json)} (each : ∀ member ∈ members, Plain member.2) :
      Plain (.object members)

/-- Whether the reader, given two units of fuel for each character, undoes the printer on a value,
whatever follows. -/
def ReadsBack (json : Json) : Prop :=
  ∀ (fuel : Nat) (rest : Text), 2 * (print json).length ≤ fuel → EndsNumber rest →
    value? unitsText? fuel (print json ++ rest) = some (json, rest)

theorem skipBlanks_cons {c : Char} (visible : isJsonBlank c = false) (rest : Text) :
    skipBlanks (c :: rest) = c :: rest := by
  rw [skipBlanks, List.dropWhile_cons_of_neg]
  rw [visible]
  exact Bool.false_ne_true

theorem endsNumber_cons {c : Char} (other : c.isDigit = false ∧ c ≠ '.' ∧ c ≠ 'e' ∧ c ≠ 'E')
    (rest : Text) : EndsNumber (c :: rest) := by
  intro d first
  cases first
  exact other

def StartsInteger (c : Char) : Prop := c = '-' ∨ c.isDigit = true

instance (c : Char) : Decidable (StartsInteger c) := inferInstanceAs (Decidable (_ ∨ _))

theorem ne_of_startsInteger {c d : Char} (starts : StartsInteger c) (other : ¬ StartsInteger d) :
    c ≠ d := by
  rintro rfl
  exact other starts

theorem isJsonBlank_of_startsInteger {c : Char} (starts : StartsInteger c) :
    isJsonBlank c = false := by
  by_contra blank
  simp only [isJsonBlank, Bool.not_eq_false, Bool.or_eq_true, beq_iff_eq] at blank
  rcases blank with ((rfl | rfl) | rfl) | rfl
  all_goals exact absurd starts (by decide)

theorem printInteger_head (value : Int) :
    ∃ c later, printInteger value = c :: later ∧ StartsInteger c := by
  by_cases negative : value < 0
  · exact ⟨'-', _, by rw [printInteger, if_pos negative], Or.inl rfl⟩
  · rw [printInteger, if_neg negative]
    cases printed : Nat.toDigits 10 value.natAbs with
    | nil => exact absurd printed Nat.toDigits_ne_nil
    | cons c later =>
        have inside : c ∈ Nat.toDigits 10 value.natAbs := by
          rw [printed]
          exact List.mem_cons_self
        exact ⟨c, later, rfl,
          Or.inr (Nat.isDigit_of_mem_toDigits (b := 10) (by decide) (by decide) inside)⟩

theorem print_head {json : Json} (plain : Plain json) :
    ∃ c later, print json = c :: later ∧ isJsonBlank c = false ∧ c ≠ ']' ∧ c ≠ '\x7d' := by
  cases plain with
  | null => exact ⟨'n', _, rfl, rfl, by decide, by decide⟩
  | bool value =>
      cases value
      · exact ⟨'f', _, rfl, rfl, by decide, by decide⟩
      · exact ⟨'t', _, rfl, rfl, by decide, by decide⟩
  | integer bounded =>
      obtain ⟨c, later, printed, starts⟩ := printInteger_head _
      exact ⟨c, later, by rw [print, printed], isJsonBlank_of_startsInteger starts,
        ne_of_startsInteger starts (by decide), ne_of_startsInteger starts (by decide)⟩
  | string text => exact ⟨'"', _, rfl, rfl, by decide, by decide⟩
  | array each => exact ⟨'[', _, by rw [print, List.cons_append], rfl, by decide, by decide⟩
  | object each => exact ⟨'\x7b', _, by rw [print, List.cons_append], rfl, by decide, by decide⟩

theorem value?_startsInteger {c : Char} (starts : StartsInteger c) (fuel : Nat) (later : Text) :
    value? unitsText? (fuel + 1) (c :: later) = number? (c :: later) := by
  rw [value?, skipBlanks_cons (isJsonBlank_of_startsInteger starts)]
  split
  all_goals first
    | rfl
    | exact absurd (List.cons.inj ‹_›).1 (ne_of_startsInteger starts (by decide))

theorem ReadsBack.integer {value : Int} (bounded : value.natAbs < doubleBound) :
    ReadsBack (.integer value) := by
  intro fuel rest enough ends
  obtain ⟨c, later, printed, starts⟩ := printInteger_head value
  have read := number?_printInteger bounded ends
  rw [print] at enough ⊢
  rw [printed, List.cons_append] at read ⊢
  cases fuel with
  | zero => simp [printed] at enough
  | succ fuel => rw [value?_startsInteger starts, read]

theorem stringUnits?_printString (text : String) (rest : Text) :
    ∃ later, printString text ++ rest = '"' :: later ∧
      stringUnits? later = some (text.toList.map unitOf, rest) := by
  refine ⟨text.toList.flatMap escapeChar ++ '"' :: rest, ?_, stringUnits?_printed _ rest⟩
  simp only [printString, List.cons_append, List.append_assoc, List.nil_append]

theorem ReadsBack.string (text : String) : ReadsBack (.string text) := by
  intro fuel rest enough ends
  obtain ⟨later, printed, read⟩ := stringUnits?_printString text rest
  cases fuel with
  | zero => simp [print, printString] at enough
  | succ fuel =>
      rw [print, printed, value?, skipBlanks_cons rfl]
      simp only [read, Option.map_some, ofUnits_units]

example : value? unitsText? 1 "\"a\"]".toList = some (.string "a", [']']) := by cbv

/-! ## Arrays and objects -/

theorem items?_printItems {items : List Json} (some_item : items ≠ [])
    (each : ∀ item ∈ items, ReadsBack item) (fuel : Nat)
    (enough : 2 * (printItems items).length + 1 ≤ fuel) (rest : Text) :
    items? unitsText? fuel (printItems items ++ ']' :: rest) = some (items, rest) := by
  have separated : ∀ later, EndsNumber (',' :: later) := fun later =>
    endsNumber_cons (by decide) later
  have closed : EndsNumber (']' :: rest) := endsNumber_cons (by decide) rest
  induction items generalizing fuel with
  | nil => exact absurd rfl some_item
  | cons item items hypothesis =>
      obtain ⟨fuel, rfl⟩ : ∃ less, fuel = less + 1 := ⟨fuel - 1, by omega⟩
      have first := each item List.mem_cons_self
      cases items with
      | nil =>
          rw [printItems] at enough ⊢
          rw [items?, first fuel _ (by omega) closed]
          simp [skipBlanks_cons (c := ']') rfl]
      | cons next later =>
          rw [printItems] at enough ⊢
          rw [List.length_append, List.length_cons] at enough
          have tail := hypothesis (List.cons_ne_nil _ _)
            (fun item inside => each item (List.mem_cons_of_mem _ inside)) fuel (by omega)
          rw [List.append_assoc, List.cons_append, items?, first fuel _ (by omega) (separated _)]
          simp [skipBlanks_cons (c := ',') rfl, tail]

theorem printItems_head {item : Json} {c : Char} {later : Text} (printed : print item = c :: later)
    (items : List Json) : ∃ more, printItems (item :: items) = c :: more := by
  cases items with
  | nil => exact ⟨later, by rw [printItems, printed]⟩
  | cons next items =>
      exact ⟨later ++ ',' :: printItems (next :: items), by rw [printItems, printed]; rfl⟩

theorem ReadsBack.array {items : List Json} (plain : ∀ item ∈ items, Plain item)
    (each : ∀ item ∈ items, ReadsBack item) : ReadsBack (.array items) := by
  intro fuel rest enough ends
  have printed : print (.array items) ++ rest = '[' :: (printItems items ++ ']' :: rest) := by
    simp [print]
  have length : (print (.array items)).length = (printItems items).length + 2 := by simp [print]
  obtain ⟨fuel, rfl⟩ : ∃ less, fuel = less + 1 := ⟨fuel - 1, by omega⟩
  rw [printed, value?, skipBlanks_cons rfl]
  cases items with
  | nil => simp [printItems, skipBlanks_cons (c := ']') rfl]
  | cons item items =>
      have read := items?_printItems (List.cons_ne_nil _ _) each fuel (by omega) rest
      obtain ⟨c, later, first, visible, filled, _⟩ := print_head (plain item List.mem_cons_self)
      obtain ⟨more, start⟩ := printItems_head first items
      rw [start, List.cons_append] at read ⊢
      simp only [skipBlanks_cons visible]
      split
      · exact absurd (List.cons.inj ‹_›).1 filled
      · rw [read, Option.map_some]

/-- A member as the reader gives it: the text of its name beside its value. -/
def readMember (member : String × Json) : Option Text × Json := (some member.1.toList, member.2)

theorem ofMembers_read (members : List (String × Json)) :
    ofMembers (members.map readMember) = .object members := by
  have named : (members.map readMember).mapM (fun (member : Option Text × Json) =>
      member.1.map fun text => (String.ofList text, member.2)) = some members := by
    rw [List.mapM_map, mapM_eq_map (g := id), List.map_id]
    intro member inside
    simp [readMember]
  rw [ofMembers, named]

theorem members?_printMembers {members : List (String × Json)} (some_member : members ≠ [])
    (each : ∀ member ∈ members, ReadsBack member.2) (fuel : Nat)
    (enough : 2 * (printMembers members).length + 1 ≤ fuel) (rest : Text) :
    members? unitsText? fuel (printMembers members ++ '\x7d' :: rest) =
      some (members.map readMember, rest) := by
  have separated : ∀ later, EndsNumber (',' :: later) := fun later =>
    endsNumber_cons (by decide) later
  have closed : EndsNumber ('\x7d' :: rest) := endsNumber_cons (by decide) rest
  induction members generalizing fuel with
  | nil => exact absurd rfl some_member
  | cons member members hypothesis =>
      obtain ⟨fuel, rfl⟩ : ∃ less, fuel = less + 1 := ⟨fuel - 1, by omega⟩
      obtain ⟨name, value⟩ := member
      have first : ReadsBack value := each (name, value) List.mem_cons_self
      cases members with
      | nil =>
          rw [printMembers] at enough ⊢
          rw [List.length_append, List.length_cons] at enough
          rw [List.append_assoc, List.cons_append]
          obtain ⟨later, printed, read⟩ :=
            stringUnits?_printString name (':' :: (print value ++ '\x7d' :: rest))
          rw [printed, members?]
          simp [skipBlanks_cons (c := '"') rfl, read, skipBlanks_cons (c := ':') rfl,
            first fuel _ (by omega) closed, skipBlanks_cons (c := '\x7d') rfl, unitsText?_units,
            readMember]
      | cons next more =>
          rw [printMembers] at enough ⊢
          simp only [List.length_append, List.length_cons] at enough
          have tail := hypothesis (List.cons_ne_nil _ _)
            (fun member inside => each member (List.mem_cons_of_mem _ inside)) fuel
            (by omega)
          simp only [List.append_assoc, List.cons_append]
          obtain ⟨later, printed, read⟩ := stringUnits?_printString name
            (':' :: (print value ++ ',' :: (printMembers (next :: more) ++ '\x7d' :: rest)))
          rw [printed, members?]
          simp [skipBlanks_cons (c := '"') rfl, read, skipBlanks_cons (c := ':') rfl,
            first fuel _ (by omega) (separated _), skipBlanks_cons (c := ',') rfl, unitsText?_units,
            tail, readMember]

theorem printMembers_head (member : String × Json) (members : List (String × Json)) :
    ∃ more, printMembers (member :: members) = '"' :: more := by
  obtain ⟨name, value⟩ := member
  cases members with
  | nil => exact ⟨_, by rw [printMembers, printString]; rfl⟩
  | cons next members => exact ⟨_, by rw [printMembers, printString]; rfl⟩

theorem ReadsBack.object {members : List (String × Json)}
    (each : ∀ member ∈ members, ReadsBack member.2) : ReadsBack (.object members) := by
  intro fuel rest enough ends
  have printed : print (.object members) ++ rest =
      '\x7b' :: (printMembers members ++ '\x7d' :: rest) := by
    simp [print]
  have length : (print (.object members)).length = (printMembers members).length + 2 := by
    simp [print]
  obtain ⟨fuel, rfl⟩ : ∃ less, fuel = less + 1 := ⟨fuel - 1, by omega⟩
  rw [printed, value?, skipBlanks_cons rfl]
  cases members with
  | nil => simp [printMembers, skipBlanks_cons (c := '\x7d') rfl]
  | cons member members =>
      have read := members?_printMembers (List.cons_ne_nil _ _) each fuel (by omega) rest
      obtain ⟨more, start⟩ := printMembers_head member members
      rw [start, List.cons_append] at read ⊢
      simp only [skipBlanks_cons (c := '"') rfl, read, Option.map_some, ofMembers_read]
      rfl

/-! ## All values -/

theorem Plain.readsBack {json : Json} (plain : Plain json) : ReadsBack json := by
  induction plain with
  | null =>
      intro fuel rest enough ends
      cases fuel with
      | zero => simp [print] at enough
      | succ fuel => simp [print, value?, skipBlanks_cons (c := 'n') rfl]
  | bool value =>
      intro fuel rest enough ends
      cases fuel with
      | zero => cases value <;> simp [print] at enough
      | succ fuel =>
          cases value
          · simp [print, value?, skipBlanks_cons (c := 'f') rfl]
          · simp [print, value?, skipBlanks_cons (c := 't') rfl]
  | integer bounded => exact .integer bounded
  | string text => exact .string text
  | array each hypothesis => exact .array each hypothesis
  | object each hypothesis => exact .object hypothesis

/-- The text printed for a value is read as that value. -/
theorem read?_print {json : Json} (plain : Plain json) : read? (print json) = some json := by
  have ends : EndsNumber [] := by
    intro c first
    cases first
  have read := plain.readsBack (2 * (print json).length + 2) [] (by omega) ends
  rw [List.append_nil] at read
  rw [read?, readWith?, read]
  rfl

end StrategyDesk.Json
