import Mathlib.Data.String.Basic
import StrategyDesk.Proofs.Analysis.QuickInfo
import StrategyDesk.Proofs.Analysis.Selection
import StrategyDesk.Proofs.Script.Trimmed

/-!
# Which names are completed

The names that are offered at a place ascend, and they are the names for that place that begin with
the word before it. Only words that begin as a name does are taken for what they are: where the word
begins otherwise every imported name is offered, and of what stands before a point only the name at
its end is looked up.
-/

set_option autoImplicit false

namespace StrategyDesk

open Script

/-! ## Bound names -/

theorem Text.trim_ne_nil {text : Text} {c : Char} (inside : c ∈ text)
    (solid : isBlank c = false) : trim text ≠ [] := by
  cases started : text.dropWhile isBlank with
  | nil =>
      have blank := List.dropWhile_eq_nil_iff.mp started c inside
      rw [solid] at blank
      cases blank
  | cons d later =>
      have stops := List.head?_dropWhile_not isBlank text
      rw [started] at stops
      obtain ⟨kept, trimmed, _⟩ := trimEnd_cons (by simpa using stops) later
      rw [trim, trimStart, started, trimmed]
      exact List.cons_ne_nil d kept

namespace Resolution

theorem importedName_bound {text : Text} (filled : text ≠ [])
    (ends : ∀ c ∈ text.getLast?, Text.isBlank c = false) : (importedName text).2 ≠ [] := by
  unfold importedName
  split
  next exported bound cut =>
    have split := Text.cutAt?_sound cut
    by_cases nothing : bound = []
    · -- The separator would end the text, and its last character is blank.
      subst nothing
      have last : text.getLast? = some ' ' := by
        rw [split, List.append_nil, List.getLast?_append]
        rfl
      have solid := ends ' ' last
      exact absurd solid (by decide +kernel)
    · have last : bound.getLast nothing ∈ text.getLast? := by
        rw [split, List.getLast?_append, List.getLast?_append, List.getLast?_eq_some_getLast nothing]
        rfl
      exact Text.trim_ne_nil (List.getLast_mem nothing) (ends _ last)
  next => exact filled

theorem ofImport_bound {files : FileSystem} {statement : ImportStatement} {binding : Binding}
    (bound : binding ∈ (ofImport files statement).bindings) : binding.name ≠ [] := by
  unfold ofImport at bound
  split at bound
  · cases bound
  · obtain ⟨result, resolved, left⟩ := List.mem_filterMap.mp bound
    obtain ⟨piece, _, comes⟩ := List.mem_filterMap.mp resolved
    obtain rfl := Sum.getLeft?_eq_some_iff.mp left
    obtain ⟨filled, name⟩ := resolvePiece_binds comes
    rw [name]
    exact importedName_bound filled (unpadded_trim piece.text).ends

theorem binding?_nil (files : FileSystem) (masked : Text) :
    (ofScript files masked).binding? [] = none := by
  refine List.find?_eq_none.mpr ?_
  intro binding bound same
  obtain ⟨part, imports, held⟩ := List.mem_flatMap.mp bound
  obtain ⟨statement, _, rfl⟩ := List.mem_map.mp imports
  exact ofImport_bound held (beq_iff_eq.mp same)

end Resolution

namespace Structural

/-! ## What is typed at a place -/

/-- What is typed at the end of a text: a word behind a point, with the word before the point, or a
word that stands behind no point. Words are as long as they can be, and may be empty. -/
inductive Typed : Text → Option Text → Text → Prop
  | property {front object word : Text} (whole : LastRun Text.isNameChar front object)
      (within : ∀ c ∈ word, Text.isNameChar c = true) :
      Typed (front ++ (object ++ '.' :: word)) (some object) word
  | name {before word : Text} (whole : LastRun Text.isNameChar before word)
      (apart : before.getLast? ≠ some '.') : Typed (before ++ word) none word

theorem exists_typed (text : Text) : ∃ object? word, Typed text object? word := by
  obtain ⟨before, word, rfl, whole⟩ := exists_lastRun Text.isNameChar text
  by_cases point : before.getLast? = some '.'
  · obtain ⟨earlier, rfl⟩ := List.getLast?_eq_some_iff.mp point
    obtain ⟨front, object, rfl, whole'⟩ := exists_lastRun Text.isNameChar earlier
    rw [List.append_assoc, List.append_assoc, List.cons_append, List.nil_append]
    exact ⟨some object, word, .property whole' whole.within⟩
  · exact ⟨none, word, .name whole point⟩

/-- The longest name at the end of a word: what follows the characters that start no name. -/
def nameEnding (word : Text) : Text := word.dropWhile fun c => !Text.isNameStart c

def BeginsAsName (word : Text) : Prop := ∀ c ∈ word.head?, Text.isNameStart c = true

theorem beginsAsName_cons {c : Char} {word : Text} :
    BeginsAsName (c :: word) ↔ Text.isNameStart c = true := by
  constructor
  · intro begins
    exact begins c rfl
  · rintro starts _ ⟨⟩
    exact starts

instance : (word : Text) → Decidable (BeginsAsName word)
  | [] => .isTrue fun _ absent => by cases absent
  | _ :: _ => decidable_of_iff _ beginsAsName_cons.symm

theorem nameEnding_eq {word : Text} (begins : BeginsAsName word) : nameEnding word = word := by
  cases word with
  | nil => rfl
  | cons c word => exact List.dropWhile_cons_of_neg (by simp [begins c rfl])

/-- What a word, behind the word before a point or not, is taken for. -/
def typingOf : Option Text → Text → Typing
  | some object, word => .property (nameEnding object) word
  | none, word => .name (if BeginsAsName word then word else [])

theorem typingAt_eq {text word : Text} {object? : Option Text} (typed : Typed text object? word) :
    typingAt text = typingOf object? word := by
  cases typed with
  | @property front object word whole within =>
      have point : Text.isNameChar '.' = false := by decide +kernel
      have behind : LastRun Text.isNameChar ((front ++ object) ++ ['.']) word := by
        refine ⟨within, ?_⟩
        rw [List.getLast?_concat]
        rintro c ⟨⟩
        exact point
      have split : front ++ (object ++ '.' :: word) = ((front ++ object) ++ ['.']) ++ word := by
        simp only [List.append_assoc, List.cons_append, List.nil_append]
      rw [typingAt, split, behind.takeWhile_eq, behind.dropWhile_eq, List.reverse_concat]
      change Typing.property (nameEnding ((front ++ object).reverse.takeWhile _).reverse) word = _
      rw [whole.takeWhile_eq]
      rfl
  | @name before word whole apart =>
      rw [typingAt, whole.takeWhile_eq, whole.dropWhile_eq]
      split
      next earlier turned =>
        rw [← List.head?_reverse, turned] at apart
        exact absurd rfl apart
      next =>
        cases word with
        | nil => rfl
        | cons c word => simp only [typingOf, beginsAsName_cons]

/-! ## What may be offered there -/

/-- Whether a name is bound to an imported enumeration with these members. -/
structure ImportedEnum (resolution : Resolution) (object : Text) (members : List Text) : Prop where
  filled : object ≠ []
  bound : ∃ binding, resolution.binding? object = some binding ∧
    binding.declaration.isEnum = true ∧ binding.declaration.members = members

/-- A name that may be offered, behind a point or not: a member of the enumeration that stands
before the point, a member of an imported module if there is no such enumeration, or an imported
name. -/
inductive Candidate (resolution : Resolution) : Option Text → Text → Prop
  | ofEnum {object name : Text} {members : List Text}
      (enumeration : ImportedEnum resolution object members) (held : name ∈ members) :
      Candidate resolution (some object) name
  | ofModule {object : Text} {module : Module} {member : Member}
      (other : ∀ members, ¬ ImportedEnum resolution object members)
      (imported : module ∈ resolution.modules) (held : member ∈ module.members) :
      Candidate resolution (some object) member.name
  | ofBinding {binding : Binding} (bound : binding ∈ resolution.bindings) :
      Candidate resolution none binding.name

theorem mem_memberCandidates_iff {resolution : Resolution} {name : Text} :
    name ∈ (memberCandidates resolution).map Prod.fst ↔
      ∃ module ∈ resolution.modules, ∃ member ∈ module.members, member.name = name := by
  simp only [memberCandidates, List.map_flatMap, List.map_map, List.mem_flatMap, List.mem_map,
    Function.comp_apply]

theorem mem_propertyCandidates_iff {resolution : Resolution}
    (unnamed : resolution.binding? [] = none) {object name : Text} :
    name ∈ (propertyCandidates resolution object).map Prod.fst ↔
      Candidate resolution (some object) name := by
  by_cases enumeration : ∃ members, ImportedEnum resolution object members
  · obtain ⟨members, known⟩ := enumeration
    obtain ⟨binding, bound, enum, rfl⟩ := known.bound
    have names : (propertyCandidates resolution object).map Prod.fst =
        binding.declaration.members := by
      simp [propertyCandidates, bound, enum, Function.comp_def]
    rw [names]
    constructor
    · exact .ofEnum known
    · intro candidate
      cases candidate with
      | ofEnum known' held =>
          obtain ⟨binding', bound', _, rfl⟩ := known'.bound
          rw [bound] at bound'
          cases bound'
          exact held
      | ofModule other imported held => exact absurd known (other _)
  · have other : propertyCandidates resolution object = memberCandidates resolution := by
      unfold propertyCandidates
      split
      next binding bound =>
        rw [if_neg]
        intro enum
        refine enumeration ⟨_, ?_, binding, bound, enum, rfl⟩
        rintro rfl
        rw [unnamed] at bound
        cases bound
      next => rfl
    rw [not_exists] at enumeration
    rw [other, mem_memberCandidates_iff]
    constructor
    · rintro ⟨module, imported, member, held, rfl⟩
      exact .ofModule enumeration imported held
    · intro candidate
      cases candidate with
      | ofEnum known held => exact absurd known (enumeration _)
      | ofModule other imported held => exact ⟨_, imported, _, held, rfl⟩

theorem mem_nameCandidates_iff {resolution : Resolution} {name : Text} :
    name ∈ (nameCandidates resolution).map Prod.fst ↔ Candidate resolution none name := by
  rw [nameCandidates, List.map_map, List.mem_map]
  constructor
  · rintro ⟨binding, bound, rfl⟩
    exact .ofBinding bound
  · intro candidate
    cases candidate with
    | ofBinding bound => exact ⟨_, bound, rfl⟩

/-! ## What is offered -/

def namesOf (completions : List Completion) : List String := completions.map Completion.name

theorem select_names (stem : Text) (candidates : List (Text × String)) :
    (namesOf (select stem candidates)).Pairwise (· < ·) ∧
      ∀ name : String, name ∈ namesOf (select stem candidates) ↔
        name.toList ∈ candidates.map Prod.fst ∧ stem <+: name.toList := by
  obtain ⟨chosen, selected, ordered, sound, complete⟩ := select_eq stem candidates
  have names : namesOf (select stem candidates) = chosen.map fun entry => String.ofList entry.1 := by
    rw [selected, namesOf, List.map_map]
    rfl
  rw [names, List.pairwise_map]
  constructor
  · refine ordered.imp ?_
    intro a b below
    rw [String.lt_iff_toList_lt, String.toList_ofList, String.toList_ofList]
    exact below
  · intro name
    rw [List.mem_map]
    constructor
    · rintro ⟨entry, kept, rfl⟩
      rw [String.toList_ofList]
      exact ⟨List.mem_map_of_mem (sound entry kept).1, (sound entry kept).2⟩
    · rintro ⟨held, fits⟩
      obtain ⟨candidate, held, same⟩ := List.mem_map.mp held
      rw [← same] at fits
      obtain ⟨entry, kept, same'⟩ := List.mem_map.mp (complete candidate held fits)
      exact ⟨entry, kept, by rw [same', same, String.ofList_toList]⟩

/-- What is offered for a word behind a point are the candidates that begin with it, those of the
name that ends the word before the point. -/
theorem completionsAt_eq {study : Study} (unnamed : study.resolution.binding? [] = none)
    {position : Nat} {object? : Option Text} {word : Text}
    (typed : Typed (study.masked.take position) object? word) :
    (namesOf (study.completionsAt position)).Pairwise (· < ·) ∧
      ∀ name : String, name ∈ namesOf (study.completionsAt position) ↔
        Candidate study.resolution (object?.map nameEnding) name.toList ∧
          (word <+: name.toList ∨ object? = none ∧ ¬ BeginsAsName word) := by
  cases object? with
  | some object =>
      have answer : study.completionsAt position =
          select word (propertyCandidates study.resolution (nameEnding object)) := by
        rw [Study.completionsAt, typingAt_eq typed]
        rfl
      rw [answer]
      obtain ⟨ordered, held⟩ :=
        select_names word (propertyCandidates study.resolution (nameEnding object))
      refine ⟨ordered, fun name => (held name).trans ?_⟩
      rw [mem_propertyCandidates_iff unnamed]
      simp
  | none =>
      have answer : study.completionsAt position =
          select (if BeginsAsName word then word else []) (nameCandidates study.resolution) := by
        rw [Study.completionsAt, typingAt_eq typed]
        rfl
      rw [answer]
      obtain ⟨ordered, held⟩ := select_names (if BeginsAsName word then word else [])
        (nameCandidates study.resolution)
      refine ⟨ordered, fun name => (held name).trans ?_⟩
      rw [mem_nameCandidates_iff]
      refine and_congr_right fun _ => ?_
      by_cases begins : BeginsAsName word
      · simp [begins]
      · simp [begins]

/-- For every place the names that are offered ascend. If the word there begins as a name does, or
for a property the word before the point, they are the candidates that begin with the word. If a
word behind no point begins otherwise they are all imported names, and if a word before the point
does they are those for the name at its end. -/
theorem completions_exact {files : FileSystem} {path : String} {script : Text}
    (readable : files.read? path = some script) (position : Nat) :
    let resolution := Resolution.ofScript files (mask script)
    let offered := namesOf ((service.answers files path).completions position)
    (∃ object? word, Typed ((mask script).take position) object? word) ∧
    offered.Pairwise (· < ·) ∧
    ∀ object? word, Typed ((mask script).take position) object? word →
      (BeginsAsName (object?.getD word) → ∀ name : String, name ∈ offered ↔
        Candidate resolution object? name.toList ∧ word <+: name.toList) ∧
      (∀ object, object? = some object → ∀ name : String, name ∈ offered ↔
        Candidate resolution (some (nameEnding object)) name.toList ∧ word <+: name.toList) ∧
      (object? = none → ¬ BeginsAsName word →
        (∀ name : String, name ∈ offered ↔ Candidate resolution none name.toList) ∧
        ((∀ name : String, name ∈ offered ↔
            Candidate resolution none name.toList ∧ word <+: name.toList) ↔
          ∀ name, Candidate resolution none name → word <+: name)) := by
  intro resolution offered
  have answer : offered = namesOf ((Study.ofScript files script).completionsAt position) := by
    simp only [offered, answers_eq readable, Study.answers]
  have unnamed : (Study.ofScript files script).resolution.binding? [] = none :=
    Resolution.binding?_nil files (mask script)
  refine ⟨exists_typed _, ?_, ?_⟩
  · obtain ⟨object?, word, typed⟩ := exists_typed ((mask script).take position)
    rw [answer]
    exact (completionsAt_eq unnamed typed).1
  · intro object? word typed
    have held (name : String) : name ∈ offered ↔
        Candidate resolution (object?.map nameEnding) name.toList ∧
          (word <+: name.toList ∨ object? = none ∧ ¬ BeginsAsName word) := by
      rw [answer]
      exact (completionsAt_eq unnamed typed).2 name
    refine ⟨?_, ?_, ?_⟩
    · intro begins name
      rw [held name]
      cases object? with
      | some object =>
          have whole : nameEnding object = object := nameEnding_eq begins
          simp [whole]
      | none => simp [show BeginsAsName word from begins]
    · rintro object rfl name
      rw [held name]
      simp
    · rintro rfl other
      have all (name : String) : name ∈ offered ↔ Candidate resolution none name.toList := by
        rw [held name]
        simp [other]
      refine ⟨all, ?_⟩
      constructor
      · intro claimed name candidate
        have offer := (all (String.ofList name)).mpr (by rwa [String.toList_ofList])
        simpa using ((claimed _).mp offer).2
      · intro begin name
        rw [all name]
        exact (and_iff_left_of_imp (begin name.toList)).symm

/-- Behind the digit in `import {E} from "m";1` the enumeration is offered. -/
theorem enumeration_offered_behind_digit :
    let script := "import \x7bE\x7d from \"m\";1".toList
    let files := (enumFiles.write "/i" script).1
    files.read? "/i" = some script ∧ Typed ((mask script).take 21) none ['1'] ∧
      "E" ∈ namesOf ((service.answers files "/i").completions 21) ∧
      ¬ ['1'] <+: "E".toList := by
  intro script files
  have readable : files.read? "/i" = some script := FileSystem.read?_write_self ..
  have typed : Typed ((mask script).take 21) none ['1'] := by
    have split : (mask script).take 21 = "import \x7bE\x7d from \"m\";".toList ++ ['1'] := by
      decide +kernel
    rw [split]
    refine .name ⟨List.all_eq_true.mp (by decide +kernel), ?_⟩ (by decide +kernel)
    rintro c ⟨⟩
    decide +kernel
  have bound : (Resolution.ofScript files (mask script)).bindings.map Binding.name = [['E']] := by
    decide +kernel
  have candidate : Candidate (Resolution.ofScript files (mask script)) none "E".toList := by
    have named : ['E'] ∈ (Resolution.ofScript files (mask script)).bindings.map Binding.name := by
      rw [bound]
      exact List.mem_singleton_self _
    obtain ⟨binding, held, name⟩ := List.mem_map.mp named
    have offer := Candidate.ofBinding held
    rw [name] at offer
    exact offer
  obtain ⟨_, _, offers⟩ := completions_exact readable 21
  obtain ⟨_, _, otherwise⟩ := offers none ['1'] typed
  exact ⟨readable, typed, ((otherwise rfl (by decide +kernel)).1 "E").mpr candidate, by decide⟩

end Structural

end StrategyDesk
