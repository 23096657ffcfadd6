import StrategyDesk.Proofs.Script.ImportForm
import StrategyDesk.Proofs.Script.Lexeme
import StrategyDesk.Proofs.Script.Occurrence

/-!
# Literals in the search for imports and accesses

Masking leaves literals as they are, so the search for import statements and for accesses goes over
them. No access reaches over a quote: the accesses of a script are those before a literal, those in
it and those behind it. An import statement may reach over quotes; as long as none meets the inside
of a literal, what stands there makes no difference to the imports that are found.
-/

set_option autoImplicit false

namespace StrategyDesk.Script

/-! ## Accesses -/

theorem isNameChar_of_isQuote {quote : Char} (quotes : isQuote quote = true) :
    Text.isNameChar quote = false := by
  simp only [isQuote, Bool.or_eq_true, beq_iff_eq] at quotes
  rcases quotes with (rfl | rfl) | rfl
  · decide +kernel
  · decide +kernel
  · decide +kernel

theorem Cursor.name?_followedBy {c : Char} (ends : Text.isNameChar c = false) (cursor : Cursor)
    (rest : Text) :
    (cursor.followedBy (c :: rest)).name? =
      cursor.name?.map fun (name, after) => (name, after.followedBy (c :: rest)) := by
  obtain ⟨position, text⟩ := cursor
  cases text with
  | nil =>
      have no_start : ¬ Text.isNameStart c = true := by
        intro starts
        rw [Text.isNameChar_of_isNameStart starts] at ends
        cases ends
      simp [name?, followedBy, no_start]
  | cons d text =>
      by_cases starts : Text.isNameStart d = true
      · obtain ⟨name, later, split, run⟩ := exists_longestRun Text.isNameChar (d :: text)
        have further : LongestRun Text.isNameChar name (later ++ c :: rest) := by
          refine ⟨run.within, ?_⟩
          intro e first
          cases later with
          | nil =>
              cases first
              exact ends
          | cons f later => exact run.stops e first
        have longer : d :: (text ++ c :: rest) = name ++ (later ++ c :: rest) := by
          rw [← List.append_assoc, ← split]
          rfl
        simp only [name?, followedBy, List.cons_append, if_pos starts, Option.map_some]
        rw [longer, split, run_append further, run_append run]
      · simp [name?, followedBy, starts]

theorem Cursor.one?_followedBy {p : Char → Bool} {c : Char} (fails : p c = false)
    (cursor : Cursor) (rest : Text) :
    (cursor.followedBy (c :: rest)).one? p =
      (cursor.one? p).map fun after => after.followedBy (c :: rest) := by
  obtain ⟨position, text⟩ := cursor
  cases text with
  | nil => simp [one?, followedBy, fails]
  | cons d text =>
      by_cases passes : p d = true
      · simp [one?, followedBy, passes]
      · simp [one?, followedBy, passes]

namespace Access

theorem read?_eq_bind (cursor : Cursor) :
    read? cursor = cursor.name?.bind fun (object, cursor) =>
      (cursor.one? (· == '.')).bind fun cursor =>
        cursor.name?.bind fun (property, cursor) => some (⟨object, property⟩, cursor) := rfl

theorem read?_append {position : Nat} {object property rest : Text} (named : IsName object)
    (named' : IsName property) (ends : ∀ c ∈ rest.head?, Text.isNameChar c = false) :
    read? ⟨position, object ++ '.' :: (property ++ rest)⟩ =
      some (⟨⟨position, object⟩, ⟨position + object.length + 1, property⟩⟩,
        ⟨position + object.length + 1 + property.length, rest⟩) := by
  have point : Text.isNameChar '.' = false := by decide +kernel
  have run := LongestRun.of_stop named.2 point (property ++ rest)
  have run' : LongestRun Text.isNameChar property rest := ⟨named'.2, ends⟩
  simp only [read?_eq_bind, Cursor.name?_append named run, Option.bind_some, Cursor.one?_char,
    Cursor.name?_append named' run']

theorem read?_parts {position : Nat} {text : Text} {access : Access} {after : Cursor}
    (found : read? ⟨position, text⟩ = some (access, after)) :
    ∃ object property rest, IsName object ∧ IsName property ∧
      (∀ c ∈ rest.head?, Text.isNameChar c = false) ∧
      text = object ++ '.' :: (property ++ rest) ∧
      access = ⟨⟨position, object⟩, ⟨position + object.length + 1, property⟩⟩ ∧
      after = ⟨position + object.length + 1 + property.length, rest⟩ := by
  rw [read?_eq_bind] at found
  simp only [Option.bind_eq_some_iff, Option.some.injEq] at found
  obtain ⟨⟨_, _⟩, naming, _, point, ⟨_, _⟩, naming', same⟩ := found
  obtain ⟨object, _, named, _, rfl, rfl, rfl⟩ := Cursor.name?_sound naming
  obtain ⟨c, _, points, rfl, rfl⟩ := Cursor.one?_sound point
  obtain ⟨property, rest, named', run, rfl, rfl, rfl⟩ := Cursor.name?_sound naming'
  cases same
  cases beq_iff_eq.mp points
  exact ⟨object, property, rest, named, named', run.stops, rfl, rfl, rfl⟩

theorem read?_sound {position : Nat} {text : Text} {access : Access} {after : Cursor}
    (found : read? ⟨position, text⟩ = some (access, after)) :
    position < access.property.start ∧ access.property.start < after.position ∧
      after.position ≤ position + text.length := by
  obtain ⟨object, property, rest, _, named', _, rfl, rfl, rfl⟩ := read?_parts found
  obtain ⟨_, _, rfl, _⟩ := named'.head
  simp only [List.length_append, List.length_cons]
  omega

theorem read?_stopsAt {quote : Char} (quotes : isQuote quote = true) : StopsAt read? quote where
  stops cursor rest := by
    have no_point : (fun c => c == '.') quote = false := by
      refine beq_eq_false_iff_ne.mpr ?_
      rintro rfl
      cases quotes
    have ends := isNameChar_of_isQuote quotes
    rw [read?_eq_bind, read?_eq_bind, Cursor.name?_followedBy ends, Option.bind_map,
      Option.map_bind]
    refine congrArg _ (funext fun (object, cursor) => ?_)
    simp only [Function.comp]
    rw [@Cursor.one?_followedBy (fun c => c == '.') quote no_point, Option.bind_map, Option.map_bind]
    refine congrArg _ (funext fun cursor => ?_)
    simp only [Function.comp]
    rw [Cursor.name?_followedBy ends, Option.bind_map, Option.map_bind]
    rfl
  idle position := rfl
  within read := (read?_sound read).2.2

def allFrom (position : Nat) (text : Text) : List Access :=
  occurrencesFrom anywhere read? 0 position none text

theorem occurrencesFrom_anywhere (position : Nat) (before : Option Char) (text : Text) :
    occurrencesFrom anywhere read? 0 position before text = allFrom position text := by
  cases text with
  | nil => rfl
  | cons c rest => rfl

theorem allFrom_split {quote : Char} (quotes : isQuote quote = true) (position : Nat)
    (front rest : Text) :
    allFrom position (front ++ quote :: rest) =
      allFrom position front ++ allFrom (position + front.length + 1) rest := by
  rw [allFrom, occurrencesFrom_split (read?_stopsAt quotes) (Nat.zero_le _),
    occurrencesFrom_anywhere, occurrencesFrom_anywhere]

theorem property_of_mem_allFrom {position : Nat} {text : Text} {access : Access}
    (occurs : access ∈ allFrom position text) :
    position < access.property.start ∧ access.property.start < position + text.length := by
  obtain ⟨first, rest, after, rfl, read⟩ := exists_of_mem_occurrencesFrom occurs
  have place := read?_sound read
  rw [List.length_append]
  omega

end Access

/-! ## Imports -/

namespace ImportStatement

theorem read?_selfContained : SelfContained read? := by
  intro position text statement after found
  obtain ⟨taken, form, split, stop⟩ := read?_sound found
  refine ⟨taken, ?_, split, stop, ?_⟩
  · rintro rfl
    cases form
  · intro rest
    rw [stop]
    exact read?_append form rest

theorem read?_of_isQuote {quote : Char} (quotes : isQuote quote = true) (position : Nat)
    (rest : Text) : read? ⟨position, quote :: rest⟩ = none := by
  cases read : read? ⟨position, quote :: rest⟩ with
  | none => rfl
  | some result =>
      obtain ⟨statement, after⟩ := result
      obtain ⟨taken, form, split, _⟩ := read?_sound read
      cases form with
      | mk =>
          have first : quote = 'i' := (List.cons.inj split).1
          rw [first] at quotes
          cases quotes

def placesIn (masked : Text) : List (Placed ImportStatement) := places wordStart read? masked

theorem all_replace {quote : Char} (quotes : isQuote quote = true) {front body other rest : Text}
    (sameLength : other.length = body.length)
    (clear : ∀ place ∈ placesIn (front ++ quote :: (body ++ quote :: rest)),
      place.Avoids (front.length + 1) (front.length + 1 + body.length))
    (clear' : ∀ place ∈ placesIn (front ++ quote :: (other ++ quote :: rest)),
      place.Avoids (front.length + 1) (front.length + 1 + body.length)) :
    all (front ++ quote :: (other ++ quote :: rest)) =
      all (front ++ quote :: (body ++ quote :: rest)) := by
  have opened (inside : Text) : front ++ quote :: (inside ++ quote :: rest) =
      (front ++ [quote]) ++ (inside ++ quote :: rest) := by
    rw [List.append_assoc, List.singleton_append]
  have start : 0 + (front ++ [quote]).length = front.length + 1 := by
    rw [List.length_append, List.length_singleton]
    omega
  rw [opened, ← start] at clear clear'
  have same := occurrencesFrom_replace read?_selfContained sameLength
    (read?_of_isQuote quotes · rest) (Nat.zero_le _) clear clear'
  rw [all, all, ← map_places, ← map_places, opened, opened]
  exact congrArg _ same

end ImportStatement

end StrategyDesk.Script
