import Mathlib.Data.List.Nodup
import StrategyDesk.Json.Wire
import StrategyDesk.Proofs.Json.Printed

/-!
# Wire forms read back

Every value of this library that is written as a JSON text is read back from it as it was, and a
record does not depend on the order of its members or on members with other names. The body of a
refusal has one exception: when its content stands before the name of its case, the content is kept
until the case is known, and content that cannot be kept is refused.
-/

set_option autoImplicit false

namespace StrategyDesk

namespace Json

/-- Whether every value that fits is read back from its printed wire form. -/
def RoundTrips {α : Type} (fits : α → Prop) (encode : α → Json) (decode? : Json → Option α) :
    Prop :=
  ∀ a, fits a → (read? (print (encode a))).bind decode? = some a

theorem RoundTrips.of_plain {α : Type} {fits : α → Prop} {encode : α → Json}
    {decode? : Json → Option α} (plain : ∀ a, fits a → Plain (encode a))
    (decodes : ∀ a, fits a → decode? (encode a) = some a) : RoundTrips fits encode decode? := by
  intro a fitting
  rw [read?_print (plain a fitting), Option.bind_some, decodes a fitting]

/-! ## Records -/

/-- Whether two lists of members agree on the members with the given names, up to their order. -/
def SameFields (names : List String) (members members' : List (String × Json)) : Prop :=
  (members.filter fun member => names.contains member.1).Perm
    (members'.filter fun member => names.contains member.1)

theorem filter_name {members : List (String × Json)} (distinct : (members.map Prod.fst).Nodup)
    {member : String × Json} (inside : member ∈ members) :
    (members.filter fun other => other.1 == member.1) = [member] := by
  induction members with
  | nil => cases inside
  | cons first members hypothesis =>
      rw [List.map_cons, List.nodup_cons] at distinct
      rw [List.filter_cons]
      rcases List.mem_cons.mp inside with rfl | later
      · have none_later : (members.filter fun other => other.1 == member.1) = [] := by
          rw [List.filter_eq_nil_iff]
          intro other listed same
          exact distinct.1 (beq_iff_eq.mp same ▸ List.mem_map_of_mem listed)
        rw [if_pos (beq_self_eq_true _), none_later]
      · have differs : ¬ (first.1 == member.1) = true := by
          intro same
          exact distinct.1 (beq_iff_eq.mp same ▸ List.mem_map_of_mem later)
        rw [if_neg differs, hypothesis distinct.2 later]

/-- A record whose members have the given names, each of them once, gives their values. -/
theorem fields?_object {names : List String} {members : List (String × Json)}
    (named : members.map Prod.fst = names) (distinct : names.Nodup) :
    fields? names (.object members) = some (members.map Prod.snd) := by
  subst named
  rw [fields?, List.mapM_map, mapM_eq_map]
  intro member inside
  rw [Function.comp_apply, member?, filter_name distinct inside]

theorem member?_sameFields {names : List String} {members members' : List (String × Json)}
    (same : SameFields names members members') {name : String} (known : name ∈ names) :
    member? name members' = member? name members := by
  have narrow : ∀ members : List (String × Json),
      (members.filter fun member => names.contains member.1).filter
        (fun member => member.1 == name) = members.filter fun member => member.1 == name := by
    intro members
    rw [List.filter_filter]
    refine List.filter_congr ?_
    intro member inside
    by_cases here : member.1 = name
    · simp [here, known]
    · simp [here]
  have alike := same.filter fun member => member.1 == name
  rw [narrow, narrow] at alike
  rw [member?, member?]
  generalize (members.filter fun member => member.1 == name) = found at alike ⊢
  generalize (members'.filter fun member => member.1 == name) = found' at alike ⊢
  have count := alike.length_eq
  rcases found with _ | ⟨one, _ | ⟨two, more⟩⟩
  · rw [alike.nil_eq]
  · rw [← alike.singleton_eq]
  · rcases found' with _ | ⟨one', _ | ⟨two', more'⟩⟩
    · cases count
    · cases count
    · rfl

theorem fields?_sameFields {names : List String} {members members' : List (String × Json)}
    (same : SameFields names members members') :
    fields? names (.object members') = fields? names (.object members) := by
  rw [fields?, fields?]
  exact mapM_congr fun name known => member?_sameFields same known

theorem natural?_integer {width n : Nat} (fits : n < wordValues width) :
    natural? width (.integer n) = some n := by
  have within : (0 : Int) ≤ n ∧ (n : Int) < wordValues width := by omega
  rw [natural?, integer?, if_pos within, Option.map_some, Int.toNat_natCast]

theorem signed?_integer {value : Int} (fits : isSigned64 value = true) :
    signed? (.integer value) = some value := by
  rw [isSigned64, Bool.and_eq_true, decide_eq_true_iff, decide_eq_true_iff] at fits
  rw [signed?, integer?, if_pos fits]

theorem wordValues_le {width : Nat} (narrow : width ≤ 64) : wordValues width ≤ wordValues 64 :=
  Nat.pow_le_pow_right (by decide) narrow

theorem wordValues_lt_doubleBound : wordValues 64 < doubleBound := by decide +kernel

theorem Plain.natural {width n : Nat} (narrow : width ≤ 64) (fits : n < wordValues width) :
    Plain (.integer n) := by
  refine .integer ?_
  have := wordValues_le narrow
  have := wordValues_lt_doubleBound
  omega

theorem Plain.signed {value : Int} (fits : isSigned64 value = true) : Plain (.integer value) := by
  rw [isSigned64, Bool.and_eq_true, decide_eq_true_iff, decide_eq_true_iff] at fits
  refine .integer ?_
  have : wordValues 63 ≤ wordValues 64 := wordValues_le (by decide)
  have := wordValues_lt_doubleBound
  omega

@[simp] theorem string?_string (text : String) : string? (.string text) = some text := rfl

@[simp] theorem caseName?_string (name : String) : caseName? (.string name) = some name := rfl

theorem listOf?_array {α : Type} {encode : α → Json} {decode? : Json → Option α}
    (list : List α) (decodes : ∀ a ∈ list, decode? (encode a) = some a) :
    listOf? decode? (.array (list.map encode)) = some list := by
  have each := mapM_eq_map (f := decode? ∘ encode) (g := id) decodes
  rw [List.map_id] at each
  rw [listOf?, array?, Option.bind_eq_bind, Option.bind_some, List.mapM_map, each]

theorem Plain.map {α : Type} {encode : α → Json} {list : List α}
    (plain : ∀ a ∈ list, Plain (encode a)) : Plain (.array (list.map encode)) := by
  refine .array ?_
  intro item inside
  obtain ⟨a, listed, rfl⟩ := List.mem_map.mp inside
  exact plain a listed

/-- Arrays in arrays: one more than `depth` of them. -/
def nested : Nat → Json
  | 0 => .array []
  | depth + 1 => .array [nested depth]

theorem plain_nested (depth : Nat) : Plain (nested depth) := by
  induction depth with
  | zero => exact .array (by simp)
  | succ depth hypothesis => exact .array (by simpa using hypothesis)

end Json

open Json

/-! ## Positions and changes -/

def FitIn (width : Nat) (numbers : List Nat) : Prop := ∀ n ∈ numbers, n < wordValues width

theorem FitIn.natural? {width : Nat} {numbers : List Nat} (fits : FitIn width numbers) :
    ∀ n ∈ numbers, natural? width (.integer n) = some n := fun n listed =>
  natural?_integer (fits n listed)

theorem FitIn.plain {width : Nat} {numbers : List Nat} (fits : FitIn width numbers)
    (narrow : width ≤ 64) : ∀ n ∈ numbers, Plain (.integer n) := fun n listed =>
  .natural narrow (fits n listed)

namespace Line

def Fits (line : Line) : Prop := FitIn 64 [line.number, line.start, line.stop]

theorem ofJson?_toJson {line : Line} (fits : line.Fits) : ofJson? line.toJson = some line := by
  have counts := fits.natural?
  simp only [List.forall_mem_cons] at counts
  rw [ofJson?, toJson, fields?_object, Option.bind_eq_bind, Option.bind_some]
  · -- The pattern of the fields is reduced before their values are read: in one step the kernel
    -- would compare a position with the number of words of 64 bits by counting down.
    dsimp only [List.map]
    simp [counts]
  · rfl
  · decide

theorem plain_toJson {line : Line} (fits : line.Fits) : Plain line.toJson := by
  have numbers := fits.plain (by decide)
  simp only [List.forall_mem_cons] at numbers
  refine .object ?_
  simp [numbers]

theorem roundTrips : RoundTrips Fits toJson ofJson? :=
  .of_plain (fun _ => plain_toJson) fun _ => ofJson?_toJson

end Line

namespace LineRange

def Fits (range : LineRange) : Prop := FitIn 64 [range.line, range.start, range.stop]

theorem ofJson?_toJson {range : LineRange} (fits : range.Fits) :
    ofJson? range.toJson = some range := by
  have counts := fits.natural?
  simp only [List.forall_mem_cons] at counts
  rw [ofJson?, toJson, fields?_object, Option.bind_eq_bind, Option.bind_some]
  · dsimp only [List.map]
    simp [counts]
  · rfl
  · decide

theorem plain_toJson {range : LineRange} (fits : range.Fits) : Plain range.toJson := by
  have numbers := fits.plain (by decide)
  simp only [List.forall_mem_cons] at numbers
  refine .object ?_
  simp [numbers]

theorem roundTrips : RoundTrips Fits toJson ofJson? :=
  .of_plain (fun _ => plain_toJson) fun _ => ofJson?_toJson

end LineRange

namespace Change

def Fits (change : Change) : Prop := FitIn 64 [change.start, change.stop]

theorem ofJson?_toJson {change : Change} (fits : change.Fits) :
    ofJson? change.toJson = some change := by
  have counts := fits.natural?
  simp only [List.forall_mem_cons] at counts
  rw [ofJson?, toJson, fields?_object, Option.bind_eq_bind, Option.bind_some]
  · dsimp only [List.map]
    simp [counts]
  · rfl
  · decide

theorem plain_toJson {change : Change} (fits : change.Fits) : Plain change.toJson := by
  have numbers := fits.plain (by decide)
  simp only [List.forall_mem_cons] at numbers
  refine .object ?_
  simp [numbers, Plain.string]

theorem roundTrips : RoundTrips Fits toJson ofJson? :=
  .of_plain (fun _ => plain_toJson) fun _ => ofJson?_toJson

end Change

/-! ## Diagnostics, findings and refusals -/

theorem Severity.ofJson?_name (severity : Severity) :
    ofJson? (.string severity.name) = severity := by
  cases severity <;> rfl

theorem Origin.ofJson?_name (origin : Origin) : ofJson? (.string origin.name) = origin := by
  cases origin <;> rfl

theorem Category.ofJson?_name (category : Category) :
    ofJson? (.string category.name) = category := by
  cases category <;> rfl

theorem Target.ofJson?_name (target : Target) : ofJson? (.string target.name) = target := by
  cases target <;> rfl

namespace Diagnostic

def Fits (diagnostic : Diagnostic) : Prop := FitIn 64 [diagnostic.start, diagnostic.stop]

theorem ofJson?_toJson {diagnostic : Diagnostic} (fits : diagnostic.Fits) :
    ofJson? diagnostic.toJson = some diagnostic := by
  have counts := fits.natural?
  simp only [List.forall_mem_cons] at counts
  rw [ofJson?, toJson, fields?_object, Option.bind_eq_bind, Option.bind_some]
  · dsimp only [List.map]
    simp [counts, Severity.ofJson?_name, Origin.ofJson?_name]
  · rfl
  · decide

theorem plain_toJson {diagnostic : Diagnostic} (fits : diagnostic.Fits) :
    Plain diagnostic.toJson := by
  have numbers := fits.plain (by decide)
  simp only [List.forall_mem_cons] at numbers
  refine .object ?_
  simp [numbers, Plain.string]

theorem roundTrips : RoundTrips Fits toJson ofJson? :=
  .of_plain (fun _ => plain_toJson) fun _ => ofJson?_toJson

end Diagnostic

namespace Finding

def Fits (finding : Finding) : Prop :=
  FitIn 64 [finding.start, finding.length] ∧ FitIn 32 [finding.code]

theorem ofJson?_toJson {finding : Finding} (fits : finding.Fits) :
    ofJson? finding.toJson = some finding := by
  have counts := fits.1.natural?
  have code := fits.2.natural?
  simp only [List.forall_mem_cons] at counts code
  rw [ofJson?, toJson, fields?_object, Option.bind_eq_bind, Option.bind_some]
  · dsimp only [List.map]
    simp [counts, code, Category.ofJson?_name]
  · rfl
  · decide

theorem plain_toJson {finding : Finding} (fits : finding.Fits) : Plain finding.toJson := by
  have counts := fits.1.plain (by decide)
  have code := fits.2.plain (by decide)
  simp only [List.forall_mem_cons] at counts code
  refine .object ?_
  simp [counts, code, Plain.string]

theorem roundTrips : RoundTrips Fits toJson ofJson? :=
  .of_plain (fun _ => plain_toJson) fun _ => ofJson?_toJson

end Finding

namespace Rejection

def Fits (rejection : Rejection) : Prop :=
  FitIn 32 [rejection.line, rejection.column] ∧ isSigned64 rejection.index = true

def names : List String := ["message", "line", "column", "index"]

theorem ofJson?_toJson {rejection : Rejection} (fits : rejection.Fits) :
    ofJson? rejection.toJson = some rejection := by
  have counts := fits.1.natural?
  have index := signed?_integer fits.2
  simp only [List.forall_mem_cons] at counts
  rw [ofJson?, toJson, fields?_object, Option.bind_eq_bind, Option.bind_some]
  · dsimp only [List.map]
    simp [counts, index]
  · rfl
  · decide

theorem plain_toJson {rejection : Rejection} (fits : rejection.Fits) : Plain rejection.toJson := by
  have counts := fits.1.plain (by decide)
  have index := Plain.signed fits.2
  simp only [List.forall_mem_cons] at counts
  refine .object ?_
  simp [counts, index, Plain.string]

theorem roundTrips : RoundTrips Fits toJson ofJson? :=
  .of_plain (fun _ => plain_toJson) fun _ => ofJson?_toJson

theorem ofJson?_sameFields {members members' : List (String × Json)}
    (same : SameFields names members members') :
    ofJson? (.object members') = ofJson? (.object members) := by
  rw [ofJson?, ofJson?, show ["message", "line", "column", "index"] = names from rfl,
    fields?_sameFields same]

end Rejection

namespace ErrorBody

def Fits : ErrorBody → Prop
  | parserError rejection => rejection.Fits

def names : List String := ["case", "fields"]

theorem ofJson?_toJson {body : ErrorBody} (fits : body.Fits) : ofJson? body.toJson = some body := by
  obtain ⟨rejection⟩ := body
  have content := Rejection.ofJson?_toJson fits
  rw [ofJson?, toJson, fields?_object, Option.bind_eq_bind, Option.bind_some]
  · dsimp only [List.map]
    simp [content, contentAdmissible, contentFirst]
  · rfl
  · decide

theorem plain_toJson {body : ErrorBody} (fits : body.Fits) : Plain body.toJson := by
  obtain ⟨rejection⟩ := body
  refine .object ?_
  simp [Rejection.plain_toJson fits, Plain.string]

theorem roundTrips : RoundTrips Fits toJson ofJson? :=
  .of_plain (fun _ => plain_toJson) fun _ => ofJson?_toJson

/-- Whether the content of a refusal stands before the name of its case and is not fit to be kept:
something in it is unrepresentable, or it nests more than 126 arrays and objects. -/
def heldBack (members : List (String × Json)) : Bool :=
  contentFirst members && (member? "fields" members).any fun content => !content.isSound 126

def judged? (name content : Json) : Option ErrorBody := do
  if (← name.caseName?) = "parserError" then
    pure (.parserError (← Rejection.ofJson? content))
  else none

theorem ofJson?_object (members : List (String × Json)) :
    ofJson? (.object members) =
      if heldBack members then none
      else (member? "case" members).bind fun name =>
        (member? "fields" members).bind (judged? name) := by
  cases named : member? "case" members with
  | none => simp [ofJson?, fields?, named]
  | some name =>
      cases held : member? "fields" members with
      | none => simp [ofJson?, fields?, named, held]
      | some content =>
          cases first : contentFirst members
          all_goals cases sound : content.isSound 126
          all_goals simp [ofJson?, fields?, named, held, contentAdmissible, heldBack, first, sound,
            judged?]

theorem ofJson?_sameFields {members members' : List (String × Json)}
    (same : SameFields names members members') (kept : heldBack members = false)
    (kept' : heldBack members' = false) :
    ofJson? (.object members') = ofJson? (.object members) := by
  rw [ofJson?_object, ofJson?_object members, kept, kept', member?_sameFields same (by decide),
    member?_sameFields same (by decide)]

theorem ofJson?_heldBack {members : List (String × Json)} (held : heldBack members = true) :
    ofJson? (.object members) = none := by
  rw [ofJson?_object, if_pos held]

end ErrorBody

/-! ## Instruments, options and answers about a word -/

namespace Instrument

theorem ofJson?_toJson (instrument : Instrument) : ofJson? instrument.toJson = some instrument := by
  rw [ofJson?, toJson, fields?_object, Option.bind_eq_bind, Option.bind_some]
  · rfl
  · rfl
  · decide

theorem plain_toJson (instrument : Instrument) : Plain instrument.toJson := by
  refine .object ?_
  simp [Plain.string]

theorem listOfJson?_listToJson (instruments : List Instrument) :
    listOfJson? (listToJson instruments) = some instruments :=
  listOf?_array instruments fun instrument _ => ofJson?_toJson instrument

theorem plain_listToJson (instruments : List Instrument) : Plain (listToJson instruments) :=
  .map fun instrument _ => plain_toJson instrument

theorem roundTrips_list : RoundTrips (fun _ => True) listToJson listOfJson? :=
  .of_plain (fun _ _ => plain_listToJson _) fun _ _ => listOfJson?_listToJson _

end Instrument

namespace CompilerOptions

theorem ofJson?_toJson (options : CompilerOptions) : ofJson? options.toJson = some options := by
  rw [ofJson?, toJson, fields?_object, Option.bind_eq_bind, Option.bind_some]
  · dsimp only [List.map]
    simp [Target.ofJson?_name]
  · rfl
  · decide

theorem plain_toJson (options : CompilerOptions) : Plain options.toJson := by
  refine .object ?_
  simp [Plain.string]

theorem roundTrips : RoundTrips (fun _ => True) toJson ofJson? :=
  .of_plain (fun _ _ => plain_toJson _) fun _ _ => ofJson?_toJson _

end CompilerOptions

namespace Completion

theorem ofJson?_toJson (completion : Completion) : ofJson? completion.toJson = some completion := by
  rw [ofJson?, toJson, fields?_object, Option.bind_eq_bind, Option.bind_some]
  · rfl
  · rfl
  · decide

theorem plain_toJson (completion : Completion) : Plain completion.toJson := by
  refine .object ?_
  simp [Plain.string]

theorem roundTrips : RoundTrips (fun _ => True) toJson ofJson? :=
  .of_plain (fun _ _ => plain_toJson _) fun _ _ => ofJson?_toJson _

end Completion

namespace DisplayPart

theorem ofJson?_toJson (part : DisplayPart) : ofJson? part.toJson = some part := by
  rw [ofJson?, toJson, fields?_object, Option.bind_eq_bind, Option.bind_some]
  · rfl
  · rfl
  · decide

theorem plain_toJson (part : DisplayPart) : Plain part.toJson := by
  refine .object ?_
  simp [Plain.string]

end DisplayPart

namespace DocTag

theorem ofJson?_toJson (tag : DocTag) : ofJson? tag.toJson = some tag := by
  have text := listOf?_array tag.text fun part _ => DisplayPart.ofJson?_toJson part
  rw [ofJson?, toJson, fields?_object, Option.bind_eq_bind, Option.bind_some]
  · dsimp only [List.map]
    simp [text]
  · rfl
  · decide

theorem plain_toJson (tag : DocTag) : Plain tag.toJson := by
  have text : Plain (.array (tag.text.map DisplayPart.toJson)) :=
    .map fun part _ => DisplayPart.plain_toJson part
  refine .object ?_
  simp [Plain.string, text]

end DocTag

namespace QuickInfo

def Fits (info : QuickInfo) : Prop := FitIn 64 [info.start, info.length]

theorem ofJson?_toJson {info : QuickInfo} (fits : info.Fits) : ofJson? info.toJson = some info := by
  have counts := fits.natural?
  have parts := listOf?_array info.displayParts fun part _ =>
    DisplayPart.ofJson?_toJson part
  have tags := listOf?_array info.tags fun tag _ => DocTag.ofJson?_toJson tag
  simp only [List.forall_mem_cons] at counts
  rw [ofJson?, toJson, fields?_object, Option.bind_eq_bind, Option.bind_some]
  · dsimp only [List.map]
    simp [counts, parts, tags]
  · rfl
  · decide

theorem plain_toJson {info : QuickInfo} (fits : info.Fits) : Plain info.toJson := by
  have counts := fits.plain (by decide)
  have parts : Plain (.array (info.displayParts.map DisplayPart.toJson)) :=
    .map fun part _ => DisplayPart.plain_toJson part
  have tags : Plain (.array (info.tags.map DocTag.toJson)) :=
    .map fun tag _ => DocTag.plain_toJson tag
  simp only [List.forall_mem_cons] at counts
  refine .object ?_
  simp [counts, parts, tags]

theorem roundTrips : RoundTrips Fits toJson ofJson? :=
  .of_plain (fun _ => plain_toJson) fun _ => ofJson?_toJson

end QuickInfo


/-! ## All wire forms -/

/-- All wire forms are read back from their texts. A rejection depends neither on the order of its
members nor on members that it does not know, and the same holds of refusals whose content can be
kept until their case is known; all others are refused. -/
theorem wire_forms_read_back :
    RoundTrips Rejection.Fits Rejection.toJson Rejection.ofJson? ∧
    RoundTrips ErrorBody.Fits ErrorBody.toJson ErrorBody.ofJson? ∧
    RoundTrips Diagnostic.Fits Diagnostic.toJson Diagnostic.ofJson? ∧
    RoundTrips Line.Fits Line.toJson Line.ofJson? ∧
    RoundTrips LineRange.Fits LineRange.toJson LineRange.ofJson? ∧
    RoundTrips Change.Fits Change.toJson Change.ofJson? ∧
    RoundTrips (fun _ => True) Instrument.listToJson Instrument.listOfJson? ∧
    RoundTrips Finding.Fits Finding.toJson Finding.ofJson? ∧
    RoundTrips (fun _ => True) CompilerOptions.toJson CompilerOptions.ofJson? ∧
    RoundTrips QuickInfo.Fits QuickInfo.toJson QuickInfo.ofJson? ∧
    RoundTrips (fun _ => True) Completion.toJson Completion.ofJson? ∧
    RoundTrips (fun _ => True) Json.string Json.string? ∧
    (∀ members members', SameFields Rejection.names members members' →
      Rejection.ofJson? (.object members') = Rejection.ofJson? (.object members)) ∧
    (∀ members members', SameFields ErrorBody.names members members' →
      ErrorBody.heldBack members = false → ErrorBody.heldBack members' = false →
      ErrorBody.ofJson? (.object members') = ErrorBody.ofJson? (.object members)) ∧
    (∀ members, ErrorBody.heldBack members = true →
      ErrorBody.ofJson? (.object members) = none) :=
  ⟨Rejection.roundTrips, ErrorBody.roundTrips, Diagnostic.roundTrips, Line.roundTrips,
    LineRange.roundTrips, Change.roundTrips, Instrument.roundTrips_list, Finding.roundTrips,
    CompilerOptions.roundTrips, QuickInfo.roundTrips, Completion.roundTrips,
    .of_plain (fun text _ => .string text) fun text _ => string?_string text,
    fun _ _ => Rejection.ofJson?_sameFields, fun _ _ => ErrorBody.ofJson?_sameFields,
    fun _ => ErrorBody.ofJson?_heldBack⟩

/-- A refusal whose rejection holds the extremes of its fields is read back, also when its content
stands first and something unknown stands between. -/
theorem reordered_refusal_read_back :
    let rejection : Rejection := ⟨"\"\\\n\x01", 4294967295, 0, -9223372036854775808⟩
    let members := [("case", .string "parserError"), ("fields", rejection.toJson)]
    let members' :=
      [("fields", rejection.toJson), ("more", .unrepresentable), ("case", .string "parserError")]
    ErrorBody.Fits (.parserError rejection) ∧
    (read? (print (.object members))).bind ErrorBody.ofJson? = some (.parserError rejection) ∧
    SameFields ErrorBody.names members members' ∧ ErrorBody.heldBack members = false ∧
    ErrorBody.heldBack members' = false ∧
    ErrorBody.ofJson? (.object members') = ErrorBody.ofJson? (.object members) := by
  intro rejection members members'
  have fits : ErrorBody.Fits (.parserError rejection) :=
    ⟨by simp [FitIn, rejection]; decide +kernel, by decide +kernel⟩
  have same : SameFields ErrorBody.names members members' := List.Perm.swap _ _ _
  have kept : ErrorBody.heldBack members = false := by decide +kernel
  have kept' : ErrorBody.heldBack members' = false := by decide +kernel
  have whole := wire_forms_read_back
  obtain ⟨_, refusal, _, _, _, _, _, _, _, _, _, _, _, reordered, _⟩ := whole
  exact ⟨fits, refusal _ fits, same, kept, kept', reordered _ _ same kept kept'⟩

/-- The order of the members of a refusal matters when its content nests too deeply: behind the name
of its case it is read, in front of it it is refused. -/
theorem refusal_depends_on_order :
    let content : Json := .object [("message", .string "m"), ("line", .integer 1),
      ("column", .integer 2), ("index", .integer 3), ("x", nested 125)]
    let members := [("case", .string "parserError"), ("fields", content)]
    let members' := [("fields", content), ("case", .string "parserError")]
    members.Perm members' ∧
    read? (print (.object members)) = some (.object members) ∧
    read? (print (.object members')) = some (.object members') ∧
    ErrorBody.ofJson? (.object members) = some (.parserError ⟨"m", 1, 2, 3⟩) ∧
    ErrorBody.ofJson? (.object members') = none := by
  intro content members members'
  have small : ∀ n : Int, n.natAbs < 4 → Plain (.integer n) := by
    intro n below
    have bound : 4 < doubleBound := by decide +kernel
    exact .integer (by omega)
  have inner : Plain content := by
    refine .object ?_
    simp [Plain.string, small, plain_nested]
  have whole : Plain (.object members) := .object (by simp [members, Plain.string, inner])
  have whole' : Plain (.object members') := .object (by simp [members', Plain.string, inner])
  exact ⟨List.Perm.swap _ _ _, read?_print whole, read?_print whole', by decide +kernel,
    by decide +kernel⟩

end StrategyDesk
