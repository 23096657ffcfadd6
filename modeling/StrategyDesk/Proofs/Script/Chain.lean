import Mathlib.Algebra.Group.Nat.Even
import StrategyDesk.Proofs.Script.Literal
import StrategyDesk.Proofs.Script.Piece

/-!
# Which accesses of a chain are found

The search for accesses takes two names of a chain at a time and goes on behind them. So whether an
access in a chain is found depends on how many names stand before it in the chain: it is found if
that is an even number, and otherwise its object was already taken for a property.
-/

set_option autoImplicit false

namespace StrategyDesk.Script

/-! ## Names at the end of a text -/

namespace IsName

variable {name front rest : Text}

theorem ne_nil (named : IsName name) : name ≠ [] := by
  obtain ⟨c, later, rfl, _⟩ := named.head
  exact List.cons_ne_nil c later

theorem append (named : IsName front) (continues : ∀ c ∈ rest, Text.isNameChar c = true) :
    IsName (front ++ rest) := by
  obtain ⟨c, later, rfl, starts⟩ := named.head
  refine ⟨⟨c, rfl, starts⟩, ?_⟩
  intro d inside
  exact (List.mem_append.mp inside).elim (named.2 d) (continues d)

theorem of_append (named : IsName (front ++ rest)) (filled : front ≠ []) : IsName front := by
  obtain ⟨c, later, rfl⟩ := List.exists_cons_of_ne_nil filled
  obtain ⟨⟨d, first, starts⟩, within⟩ := named
  cases first
  exact ⟨⟨c, rfl, starts⟩, fun e inside => within e (List.mem_append_left rest inside)⟩

theorem point_notMem (named : IsName name) : '.' ∉ name := by
  intro inside
  have continues := named.2 '.' inside
  exact absurd continues (by decide +kernel)

end IsName

def EndsInName (text : Text) : Prop := ∃ before name, text = before ++ name ∧ IsName name

theorem not_endsInName_concat {c : Char} (stop : Text.isNameChar c = false) (text : Text) :
    ¬ EndsInName (text ++ [c]) := by
  rintro ⟨before, name, split, named⟩
  have last := congrArg List.getLast? split
  rw [List.getLast?_concat, List.getLast?_append_of_ne_nil _ named.ne_nil] at last
  have continues := named.2 c (List.mem_of_getLast? last.symm)
  rw [stop] at continues
  cases continues

theorem exists_whole_name (before : Text) {name : Text} (named : IsName name) :
    ∃ before' name', before ++ name = before' ++ name' ∧ IsName name' ∧ ¬ EndsInName before' := by
  by_cases longer : EndsInName before
  · obtain ⟨before', lead, rfl, named'⟩ := longer
    have shorter : before'.length < (before' ++ lead).length := by
      have filled := List.length_pos_iff.mpr named'.ne_nil
      rw [List.length_append]
      omega
    rw [List.append_assoc]
    exact exists_whole_name before' (named'.append named.2)
  · exact ⟨before, name, rfl, named, longer⟩
termination_by before.length

theorem whole_name_unique {before before' name name' : Text}
    (same : before ++ name = before' ++ name') (named : IsName name) (named' : IsName name')
    (whole : ¬ EndsInName before) (whole' : ¬ EndsInName before') :
    before = before' ∧ name = name' := by
  rcases List.append_eq_append_iff.mp same with ⟨lead, rfl, rfl⟩ | ⟨lead, rfl, rfl⟩
  · by_cases empty : lead = []
    · subst empty
      simp
    · exact absurd ⟨before, lead, rfl, named.of_append empty⟩ whole'
  · by_cases empty : lead = []
    · subst empty
      simp
    · exact absurd ⟨before', lead, rfl, named'.of_append empty⟩ whole

/-- Whether a text ends in so many names, each with a point behind it. -/
def EndsInChain : Nat → Text → Prop
  | 0, _ => True
  | links + 1, text =>
      ∃ before name, text = before ++ (name ++ ['.']) ∧ IsName name ∧ EndsInChain links before

theorem EndsInChain.point {links : Nat} {text : Text} (chain : EndsInChain (links + 1) text) :
    ∃ before, text = before ++ ['.'] := by
  obtain ⟨before, name, rfl, _, _⟩ := chain
  exact ⟨before ++ name, (List.append_assoc _ _ _).symm⟩

theorem EndsInChain.not_endsInName {links : Nat} {text : Text}
    (chain : EndsInChain (links + 1) text) : ¬ EndsInName text := by
  obtain ⟨before, rfl⟩ := chain.point
  exact not_endsInName_concat (by decide +kernel) before

theorem endsInChain_succ_iff {before name : Text} (named : IsName name)
    (whole : ¬ EndsInName before) (links : Nat) :
    EndsInChain (links + 1) (before ++ (name ++ ['.'])) ↔ EndsInChain links before := by
  constructor
  · rintro ⟨before', name', split, named', chain⟩
    cases links with
    | zero => exact trivial
    | succ links =>
        rw [← List.append_assoc, ← List.append_assoc, List.append_left_inj] at split
        obtain ⟨rfl, rfl⟩ := whole_name_unique split named named' whole chain.not_endsInName
        exact chain
  · intro chain
    exact ⟨before, name, rfl, named, chain⟩

theorem EndsInChain.exists_whole {links : Nat} {text : Text}
    (chain : EndsInChain (links + 1) text) :
    ∃ before name, text = before ++ (name ++ ['.']) ∧ IsName name ∧ ¬ EndsInName before := by
  obtain ⟨before, name, rfl, named, _⟩ := chain
  obtain ⟨before', name', same, named', whole⟩ := exists_whole_name before named
  refine ⟨before', name', ?_, named', whole⟩
  rw [← List.append_assoc, same, List.append_assoc]

theorem EndsInChain.le_length {links : Nat} {text : Text} (chain : EndsInChain links text) :
    links ≤ text.length := by
  induction links generalizing text with
  | zero => exact Nat.zero_le _
  | succ links ih =>
      obtain ⟨before, name, rfl, _, chain⟩ := chain
      have shorter := ih chain
      simp only [List.length_append, List.length_singleton]
      omega

theorem exists_longest_chain (text : Text) :
    ∃ links, EndsInChain links text ∧ ¬ EndsInChain (links + 1) text := by
  by_contra endless
  push Not at endless
  have all (links : Nat) : EndsInChain links text := by
    induction links with
    | zero => exact trivial
    | succ links ih => exact endless links ih
  have bound := (all (text.length + 1)).le_length
  omega

/-- No chain ends in a text without a point at its end, or with the three points of a spread. -/
theorem not_endsInChain {text : Text}
    (apart : text.getLast? ≠ some '.' ∨ ['.', '.', '.'] <:+ text) : ¬ EndsInChain 1 text := by
  rintro ⟨before, name, rfl, named, _⟩
  rw [← List.append_assoc] at apart
  rcases apart with other | ⟨front, split⟩
  · exact other List.getLast?_concat
  · have points : front ++ ['.', '.'] = before ++ name := by
      rw [← List.append_left_inj ['.'], List.append_assoc]
      exact split
    have last := congrArg List.getLast? points
    rw [List.getLast?_append_of_ne_nil _ named.ne_nil] at last
    refine named.point_notMem (List.mem_of_getLast? (last.symm.trans ?_))
    simp

/-! ## The accesses of a text -/

namespace Access

theorem read?_advances : Advances read? := by
  intro position text access after read
  have place := read?_sound read
  omega

def placesIn (masked : Text) : List (Placed Access) := places anywhere read? masked

/-- Whether an access stands in a text, with what stands before it and behind it. -/
structure Stands (masked front object property rest : Text) : Prop where
  split : masked = front ++ (object ++ '.' :: (property ++ rest))
  object_name : IsName object
  property_name : IsName property
  ends : ∀ c ∈ rest.head?, Text.isNameChar c = false

def placeAfter (front object property : Text) : Placed Access :=
  ⟨front.length, front.length + object.length + 1 + property.length,
    ⟨⟨front.length, object⟩, ⟨front.length + object.length + 1, property⟩⟩⟩

theorem exists_stands {masked : Text} {place : Placed Access}
    (occurs : place ∈ placesIn masked) :
    ∃ front object property rest, Stands masked front object property rest ∧
      place = placeAfter front object property := by
  obtain ⟨front, _, after, rfl, read⟩ := exists_of_mem_occurrencesFrom occurs
  rw [Nat.zero_add] at read
  obtain ⟨reads, start, stop⟩ := placed_eq_some_iff.mp read
  obtain ⟨object, property, rest, named, named', ends, rfl, found, rfl⟩ := read?_parts reads
  refine ⟨front, object, property, rest, ⟨rfl, named, named', ends⟩, ?_⟩
  obtain ⟨_, _, _⟩ := place
  cases found
  cases start
  cases stop
  rfl

section

variable {masked front object property rest : Text}

theorem Stands.mem_iff (stands : Stands masked front object property rest) :
    placeAfter front object property ∈ placesIn masked ↔ ∀ other ∈ placesIn masked,
      ¬ (other.start < front.length ∧ front.length < other.stop) := by
  obtain ⟨rfl, named, named', ends⟩ := stands
  have read : placed read? ⟨0 + front.length, object ++ '.' :: (property ++ rest)⟩ =
      some (placeAfter front object property,
        ⟨front.length + object.length + 1 + property.length, rest⟩) := by
    rw [Nat.zero_add]
    exact placed_eq_some_iff.mpr ⟨read?_append named named' ends, rfl, rfl⟩
  obtain ⟨c, later, rfl, _⟩ := named.head
  exact (mem_occurrencesFrom_iff read).trans (and_iff_right (Nat.zero_le _))

theorem exists_between {front rest front' rest' : Text} (same : front ++ rest = front' ++ rest')
    (longer : front'.length ≤ front.length) :
    ∃ lead, front = front' ++ lead ∧ rest' = lead ++ rest := by
  obtain ⟨lead, rfl⟩ : front' <+: front :=
    List.prefix_of_prefix_length_le ⟨rest', same.symm⟩ ⟨rest, rfl⟩ longer
  rw [List.append_assoc] at same
  exact ⟨lead, rfl, (List.append_cancel_left same).symm⟩

/-- An access that begins inside another one begins with its property, or in a name. -/
theorem Stands.inside {front' object' property' rest' : Text}
    (stands : Stands masked front object property rest)
    (other : Stands masked front' object' property' rest')
    (behind : front'.length < front.length)
    (within : front.length < front'.length + object'.length + 1 + property'.length) :
    EndsInName front ∨ front = front' ++ (object' ++ ['.']) ∧ property' = object := by
  obtain ⟨lead, rfl, inner⟩ :=
    exists_between (stands.split.symm.trans other.split) (Nat.le_of_lt behind)
  rw [List.length_append] at behind within
  by_cases early : lead.length ≤ object'.length
  · obtain ⟨trail, rfl, _⟩ := exists_between inner early
    have filled : lead ≠ [] := List.length_pos_iff.mp (by omega)
    exact Or.inl ⟨front', lead, rfl, other.object_name.of_append filled⟩
  · obtain ⟨trail, rfl, behindObject⟩ := exists_between inner.symm (Nat.le_of_not_le early)
    cases trail with
    | nil => simp at early
    | cons point trail =>
        obtain ⟨rfl, behindPoint⟩ := List.cons.inj behindObject
        rw [List.length_append, List.length_cons] at within
        obtain ⟨later, rfl, after⟩ := exists_between behindPoint (by omega)
        by_cases first : trail = []
        · subst first
          have run : LongestRun Text.isNameChar later rest' :=
            ⟨other.property_name.2, other.ends⟩
          have run' : LongestRun Text.isNameChar object ('.' :: (property ++ rest)) :=
            .of_stop stands.object_name.2 (by decide +kernel) _
          have same := run.takeWhile_eq.symm.trans (after ▸ run'.takeWhile_eq)
          exact Or.inr ⟨rfl, same⟩
        · refine Or.inl ⟨front' ++ (object' ++ ['.']), trail, ?_, ?_⟩
          · simp only [List.append_assoc, List.cons_append, List.nil_append]
          · exact other.property_name.of_append first

theorem Stands.of_name {name : Text} (stands : Stands masked (front ++ name) object property rest)
    (named : IsName name) : Stands masked front (name ++ object) property rest where
  split := by rw [stands.split, List.append_assoc, List.append_assoc]
  object_name := named.append stands.object_name.2
  property_name := stands.property_name
  ends := stands.ends

theorem Stands.of_link {name : Text}
    (stands : Stands masked (front ++ (name ++ ['.'])) object property rest) (named : IsName name) :
    Stands masked front name object ('.' :: (property ++ rest)) where
  split := by
    rw [stands.split]
    simp only [List.append_assoc, List.cons_append, List.nil_append]
  object_name := named
  property_name := stands.object_name
  ends := by
    rintro c ⟨⟩
    decide +kernel

theorem Stands.exists_around {masked front name object property rest : Text}
    (stands : Stands masked (front ++ name) object property rest) (named : IsName name) :
    ∃ other ∈ placesIn masked,
      other.start < (front ++ name).length ∧ (front ++ name).length < other.stop := by
  have longer := stands.of_name named
  have filled := List.length_pos_iff.mpr named.ne_nil
  have filled' := List.length_pos_iff.mpr stands.object_name.ne_nil
  by_cases found : placeAfter front (name ++ object) property ∈ placesIn masked
  · refine ⟨_, found, ?_⟩
    simp only [placeAfter, List.length_append]
    omega
  · rw [longer.mem_iff] at found
    push Not at found
    obtain ⟨other, occurs, behind, within⟩ := found
    obtain ⟨front', object', property', rest', stands', rfl⟩ := exists_stands occurs
    rcases longer.inside stands' behind within with ⟨before, lead, rfl, named'⟩ | ⟨rfl, rfl⟩
    · have shorter : before.length < (before ++ lead).length := by
        have filled'' := List.length_pos_iff.mpr named'.ne_nil
        rw [List.length_append]
        omega
      rw [List.append_assoc] at stands ⊢
      exact exists_around stands (named'.append named.2)
    · refine ⟨_, occurs, ?_⟩
      simp only [placeAfter, List.length_append, List.length_singleton] at behind ⊢
      omega
termination_by front.length

/-- An access is found if it does not begin in a name and its object was not taken for the property
of an access that is found. -/
theorem Stands.found_iff (stands : Stands masked front object property rest) :
    placeAfter front object property ∈ placesIn masked ↔
      ¬ EndsInName front ∧ ∀ before name, front = before ++ (name ++ ['.']) → IsName name →
        placeAfter before name object ∉ placesIn masked := by
  constructor
  · intro found
    have free := stands.mem_iff.mp found
    constructor
    · rintro ⟨before, name, rfl, named⟩
      obtain ⟨other, occurs, around⟩ := stands.exists_around named
      exact free other occurs around
    · rintro before name rfl named taken
      have filled := List.length_pos_iff.mpr stands.object_name.ne_nil
      refine free _ taken ?_
      simp only [placeAfter, List.length_append, List.length_singleton]
      omega
  · rintro ⟨whole, untaken⟩
    refine stands.mem_iff.mpr ?_
    rintro other occurs ⟨behind, within⟩
    obtain ⟨front', object', property', rest', stands', rfl⟩ := exists_stands occurs
    rcases stands.inside stands' behind within with named | ⟨rfl, rfl⟩
    · exact whole named
    · exact untaken front' object' rfl stands'.object_name occurs

/-- An access whose object is a whole name is found if and only if an even number of names stands
before it in its chain. -/
theorem Stands.found_iff_even {links : Nat} (stands : Stands masked front object property rest)
    (whole : ¬ EndsInName front) (chain : EndsInChain links front)
    (longest : ¬ EndsInChain (links + 1) front) :
    placeAfter front object property ∈ placesIn masked ↔ Even links := by
  -- Going back along the chain, each access is found if the one before it is not.
  induction links generalizing front object property rest with
  | zero =>
      refine iff_of_true (stands.found_iff.mpr ⟨whole, ?_⟩) Even.zero
      rintro before name rfl named
      exact absurd ⟨before, name, rfl, named, trivial⟩ longest
  | succ links ih =>
      obtain ⟨before, name, rfl, named, whole'⟩ := chain.exists_whole
      rw [endsInChain_succ_iff named whole'] at chain longest
      have back := ih (stands.of_link named) whole' chain longest
      rw [Nat.even_add_one, ← back, stands.found_iff, and_iff_right whole]
      constructor
      · intro untaken
        exact untaken before name rfl named
      · intro untaken before' name' same named'
        rw [← List.append_assoc, ← List.append_assoc, List.append_left_inj] at same
        by_cases longer : EndsInName before'
        · intro found
          have link : Stands masked before' name' object ('.' :: (property ++ rest)) := by
            refine Stands.of_link ?_ named'
            rw [← List.append_assoc, ← same, List.append_assoc]
            exact stands
          exact (link.found_iff.mp found).1 longer
        · obtain ⟨rfl, rfl⟩ := whole_name_unique same named named' whole' longer
          exact untaken

end

end Access

end StrategyDesk.Script
