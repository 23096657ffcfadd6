import StrategyDesk.Proofs.Script.Reading

/-!
# Occurrences in a text that changes

A search for a form goes over a text from left to right. Where a reader needs no more than the text
that it takes, a part of the text may be replaced without any other effect on the search, as long as
nothing that is found meets that part. Where no reader goes over some character, the search falls
into the searches before and after it.
-/

set_option autoImplicit false

namespace StrategyDesk.Script

/-- Something that was read, with the place it takes. -/
structure Placed (α : Type) where
  start : Nat
  stop : Nat
  found : α

/-- Whether the place lies before or after the characters between two positions. -/
def Placed.Avoids {α : Type} (start stop : Nat) (place : Placed α) : Prop :=
  place.stop ≤ start ∨ stop ≤ place.start

instance {α : Type} (start stop : Nat) (place : Placed α) : Decidable (place.Avoids start stop) :=
  inferInstanceAs (Decidable (_ ∨ _))

section

variable {α : Type}

def placed (read? : Cursor → Option (α × Cursor)) (cursor : Cursor) :
    Option (Placed α × Cursor) :=
  (read? cursor).map fun (found, after) => (⟨cursor.position, after.position, found⟩, after)

def places (admits : Option Char → Bool) (read? : Cursor → Option (α × Cursor)) (text : Text) :
    List (Placed α) := occurrences admits (placed read?) text

/-- A reader that is decided by the text it takes, of which there is some. -/
def SelfContained (read? : Cursor → Option (α × Cursor)) : Prop :=
  ∀ {position : Nat} {text : Text} {found : α} {after : Cursor},
    read? ⟨position, text⟩ = some (found, after) →
      ∃ taken, taken ≠ [] ∧ text = taken ++ after.rest ∧
        after.position = position + taken.length ∧
        ∀ rest, read? ⟨position, taken ++ rest⟩ = some (found, ⟨after.position, rest⟩)

theorem getLast?_cons_or (c : Char) (text : Text) (before : Option Char) :
    (c :: text).getLast?.or before = text.getLast?.or (some c) := by
  rw [List.getLast?_cons]
  cases text.getLast? <;> rfl

theorem place_cons (position : Nat) (c : Char) (text : Text) :
    position + (c :: text).length = position + 1 + text.length := by
  rw [List.length_cons]
  omega

variable {admits : Option Char → Bool} {read? : Cursor → Option (α × Cursor)}

theorem occurrencesFrom_cons_of_some {position : Nat} {before : Option Char} {c : Char}
    {rest : Text} {found : α} {after : Cursor} (admitted : admits before = true)
    (read : read? ⟨position, c :: rest⟩ = some (found, after)) :
    occurrencesFrom admits read? 0 position before (c :: rest) =
      found :: occurrencesFrom admits read? (after.position - position - 1) (position + 1)
        (some c) rest := by
  simp only [occurrencesFrom, if_pos admitted, read]

theorem occurrencesFrom_cons_of_none {position : Nat} {before : Option Char} {c : Char}
    {rest : Text} (unread : admits before = true → read? ⟨position, c :: rest⟩ = none) :
    occurrencesFrom admits read? 0 position before (c :: rest) =
      occurrencesFrom admits read? 0 (position + 1) (some c) rest := by
  by_cases admitted : admits before = true
  · simp only [occurrencesFrom, if_pos admitted, unread admitted]
  · simp only [occurrencesFrom, if_neg admitted]

/-- One step of a search: either the form is read at the place, or the search goes on behind it. -/
theorem occurrencesFrom_step (admits : Option Char → Bool)
    (read? : Cursor → Option (α × Cursor)) (position : Nat) (before : Option Char) (c : Char)
    (rest : Text) :
    (∃ found after, admits before = true ∧ read? ⟨position, c :: rest⟩ = some (found, after) ∧
        occurrencesFrom admits read? 0 position before (c :: rest) =
          found :: occurrencesFrom admits read? (after.position - position - 1) (position + 1)
            (some c) rest) ∨
      (admits before = true → read? ⟨position, c :: rest⟩ = none) ∧
        occurrencesFrom admits read? 0 position before (c :: rest) =
          occurrencesFrom admits read? 0 (position + 1) (some c) rest := by
  by_cases admitted : admits before = true
  · cases read : read? ⟨position, c :: rest⟩ with
    | some result =>
        exact Or.inl ⟨_, _, admitted, rfl, occurrencesFrom_cons_of_some admitted read⟩
    | none => exact Or.inr ⟨fun _ => rfl, occurrencesFrom_cons_of_none fun _ => read⟩
  · have unread : admits before = true → read? ⟨position, c :: rest⟩ = none :=
      fun yes => absurd yes admitted
    exact Or.inr ⟨unread, occurrencesFrom_cons_of_none unread⟩

theorem map_occurrencesFrom_placed (skip position : Nat) (before : Option Char) (text : Text) :
    (occurrencesFrom admits (placed read?) skip position before text).map Placed.found =
      occurrencesFrom admits read? skip position before text := by
  induction text generalizing skip position before with
  | nil => cases skip <;> rfl
  | cons c rest ih =>
      cases skip with
      | succ skip => exact ih skip (position + 1) (some c)
      | zero =>
          rcases occurrencesFrom_step admits read? position before c rest with
            ⟨found, after, admitted, read, step⟩ | ⟨unread, step⟩
          · have readPlaced : placed read? ⟨position, c :: rest⟩ =
                some (⟨position, after.position, found⟩, after) := by
              rw [placed, read]
              rfl
            rw [occurrencesFrom_cons_of_some admitted readPlaced, List.map_cons, ih, step]
          · have unreadPlaced : admits before = true →
                placed read? ⟨position, c :: rest⟩ = none := by
              intro admitted
              rw [placed, unread admitted]
              rfl
            rw [occurrencesFrom_cons_of_none unreadPlaced, ih, step]

theorem map_places (text : Text) :
    (places admits read? text).map Placed.found = occurrences admits read? text :=
  map_occurrencesFrom_placed 0 0 none text

/-! ## A part that is replaced -/

theorem placed_eq_some_iff {position : Nat} {text : Text} {place : Placed α} {after : Cursor} :
    placed read? ⟨position, text⟩ = some (place, after) ↔
      read? ⟨position, text⟩ = some (place.found, after) ∧ place.start = position ∧
        place.stop = after.position := by
  rw [placed, Option.map_eq_some_iff]
  constructor
  · rintro ⟨⟨found, after⟩, read, same⟩
    cases same
    exact ⟨read, rfl, rfl⟩
  · obtain ⟨start, stop, found⟩ := place
    rintro ⟨read, rfl, rfl⟩
    exact ⟨_, read, rfl⟩

theorem SelfContained.advances (contained : SelfContained read?) {position : Nat} {text : Text}
    {found : α} {after : Cursor} (read : read? ⟨position, text⟩ = some (found, after)) :
    position < after.position := by
  obtain ⟨taken, filled, _, stop, _⟩ := contained read
  have advance : 0 < taken.length := List.length_pos_iff.mpr filled
  omega

theorem SelfContained.front (contained : SelfContained read?) {position : Nat} {front rest : Text}
    {found : α} {after : Cursor} (read : read? ⟨position, front ++ rest⟩ = some (found, after))
    (within : after.position ≤ position + front.length) (other : Text) :
    ∃ later, read? ⟨position, front ++ other⟩ = some (found, ⟨after.position, later⟩) := by
  obtain ⟨taken, filled, split, stop, anywhere⟩ := contained read
  have shorter : taken.length ≤ front.length := by omega
  obtain ⟨between, rfl⟩ : taken <+: front := by
    refine List.prefix_of_prefix_length_le ?_ (List.prefix_append front rest) shorter
    exact ⟨after.rest, split.symm⟩
  refine ⟨between ++ other, ?_⟩
  rw [List.append_assoc]
  exact anywhere (between ++ other)

theorem occurrencesFrom_unread {position : Nat} {text : Text}
    (unread : read? ⟨position, text⟩ = none) (before before' : Option Char) :
    occurrencesFrom admits read? 0 position before text =
      occurrencesFrom admits read? 0 position before' text := by
  cases text with
  | nil => rfl
  | cons c rest =>
      rw [occurrencesFrom_cons_of_none fun _ => unread,
        occurrencesFrom_cons_of_none fun _ => unread]

theorem occurrencesFrom_pass (contained : SelfContained read?) {inside rest : Text}
    {start position : Nat} {before : Option Char} (entered : start ≤ position)
    (clear : ∀ place ∈ occurrencesFrom admits (placed read?) 0 position before (inside ++ rest),
      place.Avoids start (position + inside.length)) :
    ∃ last, occurrencesFrom admits (placed read?) 0 position before (inside ++ rest) =
      occurrencesFrom admits (placed read?) 0 (position + inside.length) last rest := by
  induction inside generalizing position before with
  | nil => exact ⟨before, rfl⟩
  | cons c inside ih =>
      rw [List.cons_append] at clear ⊢
      have unread : admits before = true →
          placed read? ⟨position, c :: (inside ++ rest)⟩ = none := by
        intro admitted
        cases read : placed read? ⟨position, c :: (inside ++ rest)⟩ with
        | none => rfl
        | some result =>
            obtain ⟨place, after⟩ := result
            obtain ⟨reads, starts, stops⟩ := placed_eq_some_iff.mp read
            have advance := contained.advances reads
            rw [occurrencesFrom_cons_of_some admitted read] at clear
            rcases clear place List.mem_cons_self with early | late
            · omega
            · rw [List.length_cons] at late
              omega
      rw [occurrencesFrom_cons_of_none unread] at clear ⊢
      rw [place_cons] at clear ⊢
      exact ih (by omega) clear

theorem placed_front (contained : SelfContained read?) {position length : Nat} {c : Char}
    {front rest : Text} {place : Placed α} {after : Cursor}
    (read : placed read? ⟨position, c :: (front ++ rest)⟩ = some (place, after))
    (avoids : place.Avoids (position + 1 + front.length) (position + 1 + front.length + length))
    (other : Text) :
    after.position ≤ position + 1 + front.length ∧
      ∃ later, placed read? ⟨position, c :: (front ++ other)⟩ =
        some (place, ⟨after.position, later⟩) := by
  obtain ⟨reads, starts, stops⟩ := placed_eq_some_iff.mp read
  have within : after.position ≤ position + 1 + front.length := by
    rcases avoids with early | late
    · omega
    · omega
  have inFront : after.position ≤ position + (c :: front).length := by
    rw [List.length_cons]
    omega
  obtain ⟨later, reads'⟩ := contained.front reads inFront other
  exact ⟨within, later, placed_eq_some_iff.mpr ⟨reads', starts, stops⟩⟩

/-- A part of a text may be replaced by another one of its length, if no place meets it before or
after. What stands behind it must not be read where it begins, for there the character before it is
another one. -/
theorem occurrencesFrom_replace (contained : SelfContained read?) {front inside other rest : Text}
    (sameLength : other.length = inside.length)
    (closed : ∀ position, read? ⟨position, rest⟩ = none) {skip position : Nat}
    {before : Option Char} (skipped : skip ≤ front.length)
    (clear : ∀ place ∈ occurrencesFrom admits (placed read?) skip position before
        (front ++ (inside ++ rest)),
      place.Avoids (position + front.length) (position + front.length + inside.length))
    (clear' : ∀ place ∈ occurrencesFrom admits (placed read?) skip position before
        (front ++ (other ++ rest)),
      place.Avoids (position + front.length) (position + front.length + inside.length)) :
    occurrencesFrom admits (placed read?) skip position before (front ++ (other ++ rest)) =
      occurrencesFrom admits (placed read?) skip position before (front ++ (inside ++ rest)) := by
  -- Both searches go over the front in step: what one reads there the other reads too, and the
  -- rest of what was read is skipped in both.
  induction front generalizing skip position before with
  | nil =>
      obtain rfl : skip = 0 := Nat.le_zero.mp skipped
      simp only [List.nil_append, List.length_nil, Nat.add_zero] at clear clear' ⊢
      obtain ⟨last, passed⟩ := occurrencesFrom_pass contained (Nat.le_refl position) clear
      rw [← sameLength] at clear'
      obtain ⟨last', passed'⟩ := occurrencesFrom_pass contained (Nat.le_refl position) clear'
      have unread (position : Nat) : placed read? ⟨position, rest⟩ = none := by
        rw [placed, closed]
        rfl
      rw [passed, passed', sameLength]
      exact occurrencesFrom_unread (unread _) last' last
  | cons c front ih =>
      rw [place_cons] at clear clear'
      simp only [List.cons_append] at clear clear' ⊢
      cases skip with
      | succ skip => exact ih (Nat.le_of_succ_le_succ skipped) clear clear'
      | zero =>
          have pass
              (unread : admits before = true →
                placed read? ⟨position, c :: (front ++ (inside ++ rest))⟩ = none)
              (unread' : admits before = true →
                placed read? ⟨position, c :: (front ++ (other ++ rest))⟩ = none) :
              occurrencesFrom admits (placed read?) 0 position before
                  (c :: (front ++ (other ++ rest))) =
                occurrencesFrom admits (placed read?) 0 position before
                  (c :: (front ++ (inside ++ rest))) := by
            rw [occurrencesFrom_cons_of_none unread] at clear ⊢
            rw [occurrencesFrom_cons_of_none unread'] at clear' ⊢
            exact ih (Nat.zero_le _) clear clear'
          by_cases admitted : admits before = true
          · cases read : placed read? ⟨position, c :: (front ++ (inside ++ rest))⟩ with
            | some result =>
                obtain ⟨place, after⟩ := result
                rw [occurrencesFrom_cons_of_some admitted read] at clear ⊢
                obtain ⟨within, later, read'⟩ := placed_front contained read
                  (clear place List.mem_cons_self) (other ++ rest)
                rw [occurrencesFrom_cons_of_some admitted read'] at clear' ⊢
                have fits : after.position - position - 1 ≤ front.length := by omega
                refine congrArg _ (ih fits ?_ ?_)
                · exact fun place inside => clear place (List.mem_cons_of_mem _ inside)
                · exact fun place inside => clear' place (List.mem_cons_of_mem _ inside)
            | none =>
                refine pass (fun _ => read) fun _ => ?_
                cases read' : placed read? ⟨position, c :: (front ++ (other ++ rest))⟩ with
                | none => rfl
                | some result =>
                    obtain ⟨place, after⟩ := result
                    rw [occurrencesFrom_cons_of_some admitted read'] at clear'
                    obtain ⟨_, later, back⟩ := placed_front contained read'
                      (clear' place List.mem_cons_self) (inside ++ rest)
                    rw [read] at back
                    cases back
          · exact pass (fun yes => absurd yes admitted) fun yes => absurd yes admitted

/-! ## A character that no reader goes over -/

theorem exists_of_mem_occurrencesFrom {skip position : Nat} {before : Option Char} {text : Text}
    {found : α} (occurs : found ∈ occurrencesFrom admits read? skip position before text) :
    ∃ first rest after, text = first ++ rest ∧
      read? ⟨position + first.length, rest⟩ = some (found, after) := by
  induction text generalizing skip position before with
  | nil => cases skip <;> cases occurs
  | cons c text ih =>
      have shift {skip : Nat}
          (later : found ∈ occurrencesFrom admits read? skip (position + 1) (some c) text) :
          ∃ first rest after, c :: text = first ++ rest ∧
            read? ⟨position + first.length, rest⟩ = some (found, after) := by
        obtain ⟨first, rest, after, rfl, read⟩ := ih later
        rw [← place_cons position c] at read
        exact ⟨c :: first, rest, after, rfl, read⟩
      cases skip with
      | succ skip => exact shift occurs
      | zero =>
          rcases occurrencesFrom_step admits read? position before c text with
            ⟨first, after, _, read, step⟩ | ⟨_, step⟩
          · rw [step] at occurs
            rcases List.mem_cons.mp occurs with rfl | later
            · exact ⟨[], c :: text, after, rfl, read⟩
            · exact shift later
          · rw [step] at occurs
            exact shift occurs

theorem head?_occurrencesFrom_anywhere {position : Nat} {before : Option Char} {text : Text} :
    (∀ first c rest, text = first ++ c :: rest →
        read? ⟨position + first.length, c :: rest⟩ = none) ∧
        (occurrencesFrom anywhere read? 0 position before text).head? = none ∨
      ∃ first c rest found after, text = first ++ c :: rest ∧
        read? ⟨position + first.length, c :: rest⟩ = some (found, after) ∧
        (∀ first' d rest', text = first' ++ d :: rest' → first'.length < first.length →
          read? ⟨position + first'.length, d :: rest'⟩ = none) ∧
        (occurrencesFrom anywhere read? 0 position before text).head? = some found := by
  induction text generalizing position before with
  | nil =>
      refine Or.inl ⟨?_, rfl⟩
      intro first c rest split
      exact absurd split.symm (List.append_ne_nil_of_right_ne_nil first (List.cons_ne_nil c rest))
  | cons c text ih =>
      cases read : read? ⟨position, c :: text⟩ with
      | some result =>
          refine Or.inr ⟨[], c, text, result.1, result.2, rfl, read, ?_, ?_⟩
          · intro first' d rest' _ shorter
            cases shorter
          · rw [occurrencesFrom_cons_of_some rfl read]
            rfl
      | none =>
          rw [occurrencesFrom_cons_of_none fun _ => read]
          rcases @ih (position + 1) (some c) with
            ⟨unread, none_found⟩ | ⟨first, d, rest, found, after, rfl, later, earliest, head⟩
          · refine Or.inl ⟨?_, none_found⟩
            intro first d rest split
            cases first with
            | nil =>
                cases split
                exact read
            | cons e first =>
                cases split
                rw [place_cons]
                exact unread first d rest rfl
          · refine Or.inr ⟨c :: first, d, rest, found, after, rfl, ?_, ?_, head⟩
            · rw [place_cons]
              exact later
            · intro first' e rest' split shorter
              cases first' with
              | nil =>
                  cases split
                  exact read
              | cons f first' =>
                  obtain ⟨rfl, inner⟩ := List.cons.inj split
                  rw [place_cons]
                  exact earliest first' e rest' inner (Nat.lt_of_succ_lt_succ shorter)

/-! ## A search in two parts -/

def Cursor.followedBy (cursor : Cursor) (rest : Text) : Cursor :=
  ⟨cursor.position, cursor.rest ++ rest⟩

/-- If at each place of a part where a form may begin the same is read with and without the rest of
the text, the search falls into those in the part and in the rest. -/
theorem occurrencesFrom_parted {part rest : Text} {skip position : Nat} {before : Option Char}
    (parted : ∀ first c later, part = first ++ c :: later →
      admits (first.getLast?.or before) = true →
      read? ⟨position + first.length, c :: (later ++ rest)⟩ =
        (read? ⟨position + first.length, c :: later⟩).map fun (found, after) =>
          (found, after.followedBy rest))
    (within : ∀ {position : Nat} {text : Text} {found : α} {after : Cursor},
      read? ⟨position, text⟩ = some (found, after) → after.position ≤ position + text.length)
    (skipped : skip ≤ part.length) :
    occurrencesFrom admits read? skip position before (part ++ rest) =
      occurrencesFrom admits read? skip position before part ++
        occurrencesFrom admits read? 0 (position + part.length) (part.getLast?.or before) rest := by
  induction part generalizing skip position before with
  | nil =>
      obtain rfl : skip = 0 := Nat.le_zero.mp skipped
      rfl
  | cons d part ih =>
      have later : ∀ first c later, part = first ++ c :: later →
          admits (first.getLast?.or (some d)) = true →
          read? ⟨position + 1 + first.length, c :: (later ++ rest)⟩ =
            (read? ⟨position + 1 + first.length, c :: later⟩).map fun (found, after) =>
              (found, after.followedBy rest) := by
        intro first c later split admitted
        rw [← place_cons position d]
        refine parted (d :: first) c later (by rw [split, List.cons_append]) ?_
        rwa [getLast?_cons_or]
      rw [place_cons, getLast?_cons_or, List.cons_append]
      cases skip with
      | succ skip => exact ih later (Nat.le_of_succ_le_succ skipped)
      | zero =>
          by_cases admitted : admits before = true
          · have reads : read? ⟨position, d :: (part ++ rest)⟩ = _ := parted [] d part rfl admitted
            rw [List.length_nil, Nat.add_zero] at reads
            cases read : read? ⟨position, d :: part⟩ with
            | none =>
                rw [read] at reads
                rw [occurrencesFrom_cons_of_none fun _ => read,
                  occurrencesFrom_cons_of_none fun _ => reads]
                exact ih later (Nat.zero_le _)
            | some result =>
                obtain ⟨found, after⟩ := result
                rw [read] at reads
                have reached := within read
                rw [List.length_cons] at reached
                rw [occurrencesFrom_cons_of_some admitted read,
                  occurrencesFrom_cons_of_some admitted reads, List.cons_append]
                have fits : after.position - position - 1 ≤ part.length := by omega
                exact congrArg _ (ih later fits)
          · rw [occurrencesFrom_cons_of_none fun yes => absurd yes admitted,
              occurrencesFrom_cons_of_none fun yes => absurd yes admitted]
            exact ih later (Nat.zero_le _)

/-- A reader that takes what it takes where a text ends also before a certain character. -/
structure StopsAt (read? : Cursor → Option (α × Cursor)) (c : Char) : Prop where
  stops : ∀ (cursor : Cursor) (rest : Text),
    read? (cursor.followedBy (c :: rest)) =
      (read? cursor).map fun (found, after) => (found, after.followedBy (c :: rest))
  idle : ∀ position, read? ⟨position, []⟩ = none
  within : ∀ {position : Nat} {text : Text} {found : α} {after : Cursor},
    read? ⟨position, text⟩ = some (found, after) → after.position ≤ position + text.length

theorem occurrencesFrom_split {c : Char} (stops : StopsAt read? c) {front rest : Text}
    {skip position : Nat} {before : Option Char} (skipped : skip ≤ front.length) :
    occurrencesFrom admits read? skip position before (front ++ c :: rest) =
      occurrencesFrom admits read? skip position before front ++
        occurrencesFrom admits read? 0 (position + front.length + 1) (some c) rest := by
  have unread (position : Nat) : read? ⟨position, c :: rest⟩ = none := by
    have read := stops.stops ⟨position, []⟩ rest
    rw [stops.idle] at read
    exact read
  rw [occurrencesFrom_parted (fun first d later _ _ =>
      stops.stops ⟨position + first.length, d :: later⟩ rest) stops.within skipped,
    occurrencesFrom_cons_of_none fun _ => unread _]

end

end StrategyDesk.Script
