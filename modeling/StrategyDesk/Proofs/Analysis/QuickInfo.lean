import StrategyDesk.Analysis.Structural
import StrategyDesk.Proofs.Analysis.Literal
import StrategyDesk.Proofs.Script.Word

/-!
# What is shown of a word

The information about a place of a script is about the whole word there: it covers the word, shows
its name, and is the same for every place in the word and at its ends.
-/

set_option autoImplicit false

namespace StrategyDesk.Structural

open Script

/-! ## The word at a position -/

theorem wordAt?_eq {text front word rest : Text}
    (whole : WholeWord Text.isIdentifierChar text front word rest) {position : Nat}
    (lower : front.length ≤ position) (upper : position ≤ front.length + word.length) :
    wordAt? text position = some ⟨front.length, word⟩ := by
  obtain ⟨left, right, rfl, place, toLeft, toRight⟩ := whole.runs_at lower upper
  have inside : position ≤ text.length := by
    rw [whole.split, List.length_append, List.length_append]
    omega
  have start : min position text.length - left.length = front.length := by
    rw [Nat.min_eq_left inside]
    omega
  simp only [wordAt?, toLeft, toRight, if_neg whole.filled, start]

theorem exists_wholeWord {text : Text} {position : Nat} {word : Span}
    (found : wordAt? text position = some word) :
    ∃ front rest, WholeWord Text.isIdentifierChar text front word.text rest ∧
      word.start = front.length ∧ front.length ≤ min position text.length ∧
      min position text.length ≤ front.length + word.text.length := by
  obtain ⟨front, left, before, begins⟩ := exists_lastRun Text.isIdentifierChar (text.take position)
  obtain ⟨right, rest, behind, ends⟩ := exists_longestRun Text.isIdentifierChar (text.drop position)
  have split : text = (front ++ left) ++ (right ++ rest) := by
    rw [← before, ← behind, List.take_append_drop]
  have place : min position text.length = front.length + left.length := by
    rw [← List.length_take, before, List.length_append]
  rw [wordAt?, before, behind, begins.takeWhile_eq, ends.takeWhile_eq, place,
    Nat.add_sub_cancel] at found
  split at found
  next => cases found
  next filled =>
    cases found
    refine ⟨front, rest, ?_, rfl, ?_, ?_⟩
    · rw [split]
      exact .of_runs begins ends filled
    · omega
    · rw [List.length_append]
      omega

/-! ## What is shown of it -/

def Study.describe? (study : Study) (word : Span) : Option QuickInfo :=
  if word.start > 0 ∧ study.masked[word.start - 1]? = some '.' then
    (study.resolution.member? word.text).map fun (module, member) => memberInfo word module member
  else (study.resolution.binding? word.text).map (bindingInfo word)

theorem quickInfoAt?_eq (study : Study) (position : Nat) :
    study.quickInfoAt? position = (wordAt? study.masked position).bind study.describe? := by
  unfold Study.quickInfoAt? Study.describe?
  refine congrArg _ (funext fun word => ?_)
  split
  · cases study.resolution.member? word.text <;> rfl
  · cases study.resolution.binding? word.text <;> rfl

theorem binding?_name {resolution : Resolution} {name : Text} {binding : Binding}
    (bound : resolution.binding? name = some binding) : binding.name = name := by
  have same := List.find?_some bound
  exact beq_iff_eq.mp same

theorem member?_name {resolution : Resolution} {name : Text} {module : Module} {member : Member}
    (known : resolution.member? name = some (module, member)) : member.name = name := by
  obtain ⟨_, _, here⟩ := List.exists_of_findSome?_eq_some known
  obtain ⟨_, found, same⟩ := Option.map_eq_some_iff.mp here
  cases same
  have named := List.find?_some found
  exact beq_iff_eq.mp named

/-- What is shown of a word is about its place, and the third part that is displayed is its name. -/
theorem describe?_sound {study : Study} {word : Span} {info : QuickInfo}
    (shown : study.describe? word = some info) :
    info.start = word.start ∧ info.length = word.text.length ∧
      ∃ kind, info.displayParts[2]? = some ⟨String.ofList word.text, kind⟩ := by
  unfold Study.describe? at shown
  split at shown
  · obtain ⟨⟨module, member⟩, known, rfl⟩ := Option.map_eq_some_iff.mp shown
    refine ⟨rfl, rfl, if member.isMethod then "methodName" else "propertyName", ?_⟩
    rw [← member?_name known]
    rfl
  · obtain ⟨binding, bound, rfl⟩ := Option.map_eq_some_iff.mp shown
    refine ⟨rfl, rfl, nameKind binding.declaration.keyword, ?_⟩
    rw [← binding?_name bound]
    rfl

theorem describe?_of_bound {study : Study} {front word rest : Text}
    (split : study.masked = front ++ (word ++ rest)) (unpointed : front.getLast? ≠ some '.')
    (bound : (study.resolution.binding? word).isSome = true) :
    (study.describe? ⟨front.length, word⟩).isSome = true := by
  have no_point : ¬ (front.length > 0 ∧ study.masked[front.length - 1]? = some '.') := by
    rintro ⟨filled, point⟩
    rw [split, List.getElem?_append_left (by omega), ← List.getLast?_eq_getElem?] at point
    exact unpointed point
  rw [Study.describe?, if_neg no_point, Option.isSome_map]
  exact bound

theorem space_notMem_word {text front word rest : Text}
    (whole : WholeWord Text.isIdentifierChar text front word rest) : ' ' ∉ word := by
  intro inside
  have solid : Text.isIdentifierChar ' ' = false := by decide +kernel
  rw [whole.ends.within ' ' inside] at solid
  cases solid

theorem answers_eq {files : FileSystem} {path : String} {script : Text}
    (readable : files.read? path = some script) :
    service.answers files path = (Study.ofScript files script).answers := by
  simp only [service, readable, Option.map_some, Option.getD_some]

/-- The information about a place covers a whole word of identifier characters that the place,
clamped to the script, is in or at an end of. It displays the word as the script has it, and it is
the information about every other such place. Of an imported name that stands behind no point there
is such information. -/
theorem information_covers_word {files : FileSystem} {path : String} {script : Text}
    (readable : files.read? path = some script) :
    let shown := (service.answers files path).quickInfo?
    (∀ position info, shown position = some info →
      ∃ front word rest, WholeWord Text.isIdentifierChar (mask script) front word rest ∧
        info.start = front.length ∧ info.length = word.length ∧
        info.start + info.length ≤ script.length ∧
        info.start ≤ min position script.length ∧
        min position script.length ≤ info.start + info.length ∧
        script.slice info.start (info.start + info.length) = word ∧
        (∃ kind, info.displayParts[2]? = some ⟨String.ofList word, kind⟩) ∧
        ∀ other, info.start ≤ other → other ≤ info.start + info.length →
          shown other = some info) ∧
    ∀ front word rest, WholeWord Text.isIdentifierChar (mask script) front word rest →
      front.getLast? ≠ some '.' →
      ((Resolution.ofScript files (mask script)).binding? word).isSome = true →
      ∀ position, front.length ≤ position → position ≤ front.length + word.length →
        (shown position).isSome = true := by
  intro shown
  have answer (position : Nat) : shown position =
      (wordAt? (mask script) position).bind (Study.ofScript files script).describe? := by
    simp only [shown, answers_eq readable]
    exact quickInfoAt?_eq _ position
  constructor
  · intro position info informed
    rw [answer] at informed
    obtain ⟨⟨start, word⟩, found, described⟩ := Option.bind_eq_some_iff.mp informed
    obtain ⟨front, rest, whole, rfl, lower, upper⟩ := exists_wholeWord found
    obtain ⟨starts, length, display⟩ := describe?_sound described
    rw [mask_length] at lower upper
    dsimp only at starts length display upper
    have inside : front.length + word.length ≤ script.length := by
      have total := congrArg List.length whole.split
      rw [mask_length, List.length_append, List.length_append] at total
      dsimp only at total
      omega
    rw [starts, length]
    refine ⟨front, word, rest, whole, rfl, rfl, inside, lower, upper,
      slice_of_masked whole.split (space_notMem_word whole), display, ?_⟩
    intro other lower' upper'
    rw [answer, wordAt?_eq whole lower' upper']
    exact described
  · intro front word rest whole unpointed bound position lower upper
    rw [answer, wordAt?_eq whole lower upper]
    exact describe?_of_bound whole.split unpointed bound

/-- Behind a comment, the enumeration `E` is shown from far beyond the end of the script and from
the place before it alike. -/
theorem last_word_shown :
    let script := "import \x7bE\x7d from \"m\";/*E.*/E".toList
    let files := (enumFiles.write "/i" script).1
    files.read? "/i" = some script ∧ ∃ info,
      (service.answers files "/i").quickInfo? 100 = some info ∧
        info.start = 26 ∧ info.length = 1 ∧ Text.slice 26 27 script = ['E'] ∧
        (∃ kind, info.displayParts[2]? = some ⟨"E", kind⟩) ∧
        (service.answers files "/i").quickInfo? 26 = some info := by
  intro script files
  have readable : files.read? "/i" = some script := FileSystem.read?_write_self ..
  refine ⟨readable, ?_⟩
  have some_info : ((service.answers files "/i").quickInfo? 100).map
      (fun info => (info.start, info.length)) = some (26, 1) := by
    decide +kernel
  obtain ⟨info, informed, place⟩ := Option.map_eq_some_iff.mp some_info
  obtain ⟨start, length⟩ := Prod.mk.inj place
  obtain ⟨_, word, _, _, _, _, _, _, _, cut, ⟨kind, display⟩, everywhere⟩ :=
    (information_covers_word readable).1 100 info informed
  rw [start, length] at cut everywhere
  have last : Text.slice 26 (26 + 1) script = ['E'] := by decide +kernel
  obtain rfl : word = ['E'] := cut.symm.trans last
  exact ⟨info, informed, start, length, last, ⟨kind, display⟩,
    everywhere 26 (Nat.le_refl 26) (Nat.le_succ 26)⟩

end StrategyDesk.Structural
