import Mathlib.Data.List.DropRight
import StrategyDesk.Analysis.Hover

/-!
# Bullets in a hover

A section of a hover shows the joined text of its tag with every dash before a space turned into a
bullet, and every other character in its place. A dash is the mark of a list only if it is first on
its line, so a text is shown with bullets for such marks alone exactly if it has no other dash
before a space: a difference in an example is shown as a bullet too.
-/

set_option autoImplicit false

namespace StrategyDesk.Hover

/-- Whether a dash before a space stands at a place of a text. -/
def DashAt (text : Text) (place : Nat) : Prop :=
  text[place]? = some '-' ∧ text[place + 1]? = some ' '

/-- Whether such a dash marks an item of a list: on its line only blanks stand before it. -/
def MarkAt (text : Text) (place : Nat) : Prop :=
  DashAt text place ∧ ((text.take place).rtakeWhile (· != '\n')).all Text.isBlank = true

instance (text : Text) (place : Nat) : Decidable (DashAt text place) :=
  inferInstanceAs (Decidable (_ ∧ _))

instance (text : Text) (place : Nat) : Decidable (MarkAt text place) :=
  inferInstanceAs (Decidable (_ ∧ _))

/-- Whether a text is shown with bullets at the places that are told, and else as it is. -/
def ShownWith (bulletAt : Nat → Prop) [DecidablePred bulletAt] (text shown : Text) : Prop :=
  ∀ place, shown[place]? = text[place]?.map fun c => if bulletAt place then '•' else c

theorem ShownWith.unique {bulletAt : Nat → Prop} [DecidablePred bulletAt] {text shown other : Text}
    (first : ShownWith bulletAt text shown) (second : ShownWith bulletAt text other) :
    shown = other := by
  apply List.ext_getElem?
  intro place
  rw [first place, second place]

theorem dashAt_zero (c : Char) (rest : Text) :
    DashAt (c :: rest) 0 ↔ c = '-' ∧ rest.head? = some ' ' := by
  simp [DashAt, List.head?_eq_getElem?]

theorem dashAt_succ (c : Char) (rest : Text) (place : Nat) :
    DashAt (c :: rest) (place + 1) ↔ DashAt rest place := by
  simp [DashAt]

theorem bulleted_shownWith (text : Text) : ShownWith (DashAt text) text (bulleted text) := by
  fun_induction bulleted text with
  | case1 rest ih =>
      rintro (_ | _ | place)
      · simp [dashAt_zero]
      · simp [dashAt_succ, dashAt_zero]
      · simpa [dashAt_succ] using ih place
  | case2 c rest apart ih =>
      rintro (_ | place)
      · have bare : ¬ DashAt (c :: rest) 0 := by
          rw [dashAt_zero]
          rintro ⟨dash, space⟩
          obtain ⟨later, rfl⟩ := List.head?_eq_some_iff.mp space
          exact apart later dash rfl
        simp [bare]
      · simpa [dashAt_succ] using ih place
  | case3 =>
      intro place
      rfl

theorem shownWith_marks_iff (text : Text) :
    ShownWith (MarkAt text) text (bulleted text) ↔
      ∀ place, DashAt text place → MarkAt text place := by
  have dashes := bulleted_shownWith text
  constructor
  · intro marks place dash
    by_contra unmarked
    have kept := marks place
    rw [dashes place, dash.1, Option.map_some, Option.map_some, if_pos dash,
      if_neg unmarked] at kept
    cases kept
  · intro all_marks place
    have same : DashAt text place ↔ MarkAt text place := ⟨all_marks place, fun mark => mark.1⟩
    rw [dashes place]
    simp only [same]

theorem section?_eq_some_iff (info : QuickInfo) (name : String) (shown : HoverSection) :
    Hover.section? info name = some shown ↔
      shown.tag = name ∧ ∃ tag, (info.tags.find? fun tag => tag.name == name) = some tag ∧
        tag.text ≠ [] ∧ shown.text.toList = bulleted (joined tag.text) := by
  simp only [section?, Option.bind_eq_bind, Option.bind_eq_some_iff, Option.pure_def]
  constructor
  · rintro ⟨tag, first, told⟩
    split at told
    · cases told
    · next filled =>
        cases told
        exact ⟨rfl, tag, first, filled, String.toList_ofList⟩
  · rintro ⟨rfl, tag, first, filled, text⟩
    refine ⟨tag, first, ?_⟩
    rw [if_neg filled, ← text, String.ofList_toList]

theorem section?_tag {info : QuickInfo} {name : String} {shown : HoverSection}
    (told : section? info name = some shown) : shown.tag = name :=
  ((section?_eq_some_iff info name shown).mp told).1

/-- A hover has a section for the description and for the example whose tag is not empty, with the
joined text of the first such tag: each dash before a space is shown as a bullet, and each other
character as it is. So bullets are shown for the marks of lists alone if and only if there is no
other dash before a space in the text. -/
theorem sections_shown (info : QuickInfo) :
    (∀ shown, shown ∈ (ofInfo info).sections ↔
      shown.tag ∈ shownTags ∧
        ∃ tag, (info.tags.find? fun tag => tag.name == shown.tag) = some tag ∧ tag.text ≠ [] ∧
          ShownWith (DashAt (joined tag.text)) (joined tag.text) shown.text.toList) ∧
    ∀ shown ∈ (ofInfo info).sections, ∀ tag,
      (info.tags.find? fun tag => tag.name == shown.tag) = some tag →
      (ShownWith (MarkAt (joined tag.text)) (joined tag.text) shown.text.toList ↔
        ∀ place, DashAt (joined tag.text) place → MarkAt (joined tag.text) place) := by
  have told {shown : HoverSection} (held : shown ∈ (ofInfo info).sections) :
      shown.tag ∈ shownTags ∧ section? info shown.tag = some shown := by
    obtain ⟨name, listed, section_eq⟩ := List.mem_filterMap.mp held
    cases section?_tag section_eq
    exact ⟨listed, section_eq⟩
  constructor
  · intro shown
    constructor
    · intro held
      obtain ⟨listed, section_eq⟩ := told held
      obtain ⟨_, tag, first, filled, text⟩ := (section?_eq_some_iff _ _ _).mp section_eq
      exact ⟨listed, tag, first, filled, text ▸ bulleted_shownWith _⟩
    · rintro ⟨listed, tag, first, filled, shows⟩
      have text := shows.unique (bulleted_shownWith _)
      exact List.mem_filterMap.mpr
        ⟨_, listed, (section?_eq_some_iff _ _ _).mpr ⟨rfl, tag, first, filled, text⟩⟩
  · intro shown held tag first
    obtain ⟨_, tag', first', _, text⟩ := (section?_eq_some_iff _ _ _).mp (told held).2
    cases first.symm.trans first'
    rw [text]
    exact shownWith_marks_iff _

def differenceInfo : QuickInfo :=
  ⟨4, 3, [], [⟨"example", [⟨"a - ", "text"⟩, ⟨"b", "text"⟩]⟩]⟩

theorem difference_shown_as_bullet :
    ⟨"example", "a • b"⟩ ∈ (ofInfo differenceInfo).sections ∧
      ¬ ShownWith (MarkAt "a - b".toList) "a - b".toList "a • b".toList := by
  have held : ⟨"example", "a • b"⟩ ∈ (ofInfo differenceInfo).sections := by decide +kernel
  have text : joined [⟨"a - ", "text"⟩, ⟨"b", "text"⟩] = "a - b".toList := by decide +kernel
  have exact_iff := (sections_shown differenceInfo).2 _ held
    ⟨"example", [⟨"a - ", "text"⟩, ⟨"b", "text"⟩]⟩ (by decide +kernel)
  rw [text] at exact_iff
  refine ⟨held, ?_⟩
  rw [exact_iff]
  intro all_marks
  have mark := all_marks 2 (by decide +kernel)
  revert mark
  decide +kernel

end StrategyDesk.Hover
