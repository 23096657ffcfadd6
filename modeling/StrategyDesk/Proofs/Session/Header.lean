import StrategyDesk.Proofs.Document.Protection
import StrategyDesk.Proofs.Session.Run

/-!
# The header of a session

Only a change of the user or of the host moves the document of a session, and a change of the user
must be permitted by the header. So in a session that the host leaves alone, a line that is once in
the header stays as it is and where it is.
-/

set_option autoImplicit false

namespace StrategyDesk

theorem View.publish_document (view : View) (origin : Origin) (findings : List Diagnostic) :
    (view.publish origin findings).document = view.document := by
  unfold publish
  split
  · rfl
  · cases origin <;> rfl

theorem View.dispatch_document {view next : View} {transaction : Transaction} {update : Update}
    (carried : view.dispatch transaction = .ok (next, update)) :
    next.document = view.document ∨ ∃ change, transaction = .change change ∧
      view.document.apply change = .ok next.document := by
  cases dispatch_carriedOut carried with
  | reconfigured => exact Or.inl rfl
  | idle same => exact Or.inl rfl
  | changed applied => exact Or.inr ⟨_, rfl, applied⟩

namespace Session

variable {session next final : Session} {header : Header}

/-! ## What an operation does to the document -/

theorem analyze_document {result : Except Failure Unit}
    (analysed : session.analyze = some (next, result)) :
    next.document = session.document ∧ next.header = session.header := by
  cases analyze_ends analysed with
  | unneeded bare => exact ⟨rfl, rfl⟩
  | refused holds refused => exact ⟨rfl, rfl⟩
  | carriedOut holds synced => exact ⟨View.publish_document _ _ _, rfl⟩

theorem dispatch_document {transaction : Transaction} {result : Except Failure Unit}
    (dispatched : session.dispatch transaction = some (next, result)) :
    next.header = session.header ∧
      (next.document = session.document ∨
        ∃ change, transaction = .change change ∧
          session.document.apply change = .ok next.document) := by
  cases dispatch_ends dispatched with
  | refused refused => exact ⟨rfl, Or.inl rfl⟩
  | irrelevant carried irrelevant => exact ⟨rfl, View.dispatch_document carried⟩
  | analysed carried relevant analysed =>
      obtain ⟨document, kept⟩ := analyze_document analysed
      rw [document, kept]
      exact ⟨rfl, View.dispatch_document carried⟩

theorem lint_document {result : Except Failure Unit}
    (linted : session.lint = some (next, result)) :
    next.header = session.header ∧ next.document = session.document := by
  obtain ⟨kept, same | ⟨change, reconfigures, _⟩⟩ := dispatch_document linted
  · exact ⟨kept, same⟩
  · cases reconfigures

theorem addLibrary_document {path : String} {content : Text}
    {result : Except Failure FileChange}
    (added : session.addLibrary path content = some (next, result)) :
    next.header = session.header ∧ next.document = session.document := by
  rcases addLibrary_cases added with rfl | ⟨_, _, _, _, linted, _⟩
  · exact ⟨rfl, rfl⟩
  · obtain ⟨kept, same⟩ := lint_document linted
    exact ⟨kept, same⟩

/-- Whether the session has this header, or takes no edits at all. -/
def Guarded (session : Session) (header : Header) : Prop :=
  ∀ own, session.header = some own → own = header

theorem edit_keeps {change : Change} {result : Except Failure EditOutcome}
    (guarded : session.Guarded header) (edited : session.edit change = some (next, result)) :
    next.header = session.header ∧ header.Keeps session.document next.document := by
  rcases edit_cases edited with ⟨rfl, _⟩ | ⟨own, _, guarding, permitted, dispatched, _⟩
  · exact ⟨rfl, .refl header _⟩
  · rw [guarded own guarding] at permitted
    obtain ⟨kept, same | ⟨_, carried, applied⟩⟩ := dispatch_document dispatched
    · rw [same]
      exact ⟨kept, .refl header _⟩
    · cases carried
      exact ⟨kept, Header.keeps_of_permitted permitted applied⟩

/-! ## Runs without the host's replacements -/

theorem act_keeps {action : Action} (guarded : session.Guarded header)
    (typed : ∀ text, action ≠ .setCode text) (acted : session.act action = some next) :
    next.header = session.header ∧ header.Keeps session.document next.document := by
  cases action with
  | setCode text => exact absurd rfl (typed text)
  | edit change =>
      obtain ⟨⟨after, result⟩, edited, rfl⟩ := Option.map_eq_some_iff.mp acted
      exact edit_keeps guarded edited
  | addLibrary path content =>
      obtain ⟨⟨after, result⟩, added, rfl⟩ := Option.map_eq_some_iff.mp acted
      obtain ⟨kept, same⟩ := addLibrary_document added
      rw [same]
      exact ⟨kept, .refl header _⟩
  | lint =>
      obtain ⟨⟨after, result⟩, linted, rfl⟩ := Option.map_eq_some_iff.mp acted
      obtain ⟨kept, same⟩ := lint_document linted
      rw [same]
      exact ⟨kept, .refl header _⟩
  | requestFlush waiter =>
      cases acted
      exact ⟨rfl, .refl header _⟩
  | takeFailures =>
      cases acted
      exact ⟨rfl, .refl header _⟩
  | meet event =>
      obtain ⟨_, _, shown, _, step, rfl⟩ := workerStep_eq_some acted
      have same : shown.view.document = session.document :=
        (Worker.transition_sameHostSide (Worker.step_transition step)).1
      refine ⟨rfl, ?_⟩
      show header.Keeps session.document shown.view.document
      rw [same]
      exact .refl header _

theorem play_keeps {actions : List Action} (guarded : session.Guarded header)
    (typed : ∀ text, .setCode text ∉ actions) (played : session.play actions = some final) :
    final.header = session.header ∧ header.Keeps session.document final.document := by
  induction actions generalizing session with
  | nil =>
      cases played
      exact ⟨rfl, .refl header _⟩
  | cons action rest ih =>
      obtain ⟨next, first, later⟩ := Option.bind_eq_some_iff.mp played
      obtain ⟨same, kept⟩ := act_keeps guarded
        (fun text replaces => typed text (replaces ▸ List.mem_cons_self)) first
      have guarding : next.Guarded header := fun own holds => guarded own (same ▸ holds)
      obtain ⟨settled, keeps⟩ := ih guarding
        (fun text member => typed text (List.mem_cons_of_mem _ member)) later
      exact ⟨settled.trans same, kept.trans keeps⟩

/-- A session shows the text that it was opened with, under the header of its settings. -/
theorem opened_guarded {manager supplier : Manager} {text : Text} {settings : SessionSettings}
    (opened : openEditable manager text settings = some (supplier, .ok session) ∨
      openReadOnly text settings = session) :
    session.document = ⟨text⟩ ∧ session.Guarded ⟨settings.protectedLines⟩ := by
  rcases opened with editable | rfl
  · obtain ⟨env, next, _, analysed, rfl⟩ := exists_of_openEditable editable
    obtain ⟨document, kept⟩ := analyze_document analysed
    refine ⟨document, fun own holds => ?_⟩
    exact (Option.some.inj (kept.symm.trans holds)).symm
  · exact ⟨rfl, fun own none_held => nomatch none_held⟩

/-- However a session goes on, as long as the host replaces nothing: the lines that its header
protected when it was opened have the same text at the same place, the number of protected lines
never goes down, and each line that is protected at any moment stays as it is from then on. -/
theorem header_lines_kept {manager supplier : Manager} {text : Text} {settings : SessionSettings}
    {session middle final : Session} {earlier later : List Action}
    (opened : openEditable manager text settings = some (supplier, .ok session) ∨
      openReadOnly text settings = session)
    (typed : ∀ text, .setCode text ∉ earlier ++ later)
    (reached : session.play earlier = some middle) (played : middle.play later = some final) :
    let height (doc : Document) := min settings.protectedLines doc.lineCount
    height ⟨text⟩ ≤ height middle.document ∧ height middle.document ≤ height final.document ∧
    (∀ number ≤ height ⟨text⟩,
      final.document.line? number = Document.line? ⟨text⟩ number ∧
        final.document.lineText? number = Document.lineText? ⟨text⟩ number) ∧
    (∀ number ≤ height middle.document,
      final.document.line? number = middle.document.line? number ∧
        final.document.lineText? number = middle.document.lineText? number) := by
  intro height
  obtain ⟨first, guarded⟩ := opened_guarded opened
  obtain ⟨same, before⟩ := play_keeps guarded
    (fun text member => typed text (List.mem_append_left _ member)) reached
  have guarding : middle.Guarded ⟨settings.protectedLines⟩ :=
    fun own holds => guarded own (same ▸ holds)
  obtain ⟨_, after⟩ := play_keeps guarding
    (fun text member => typed text (List.mem_append_right _ member)) played
  rw [first] at before
  exact ⟨before.height_le, after.height_le, fun number inside => (before.trans after).line inside,
    fun number inside => after.line inside⟩

/-- The text `a` under a header of two lines: a second line may be typed below it, and is protected
from then on, so it cannot be joined to the first one. -/
theorem typed_line_protected :
    let settings : SessionSettings := ⟨"/s", 500, 2, []⟩
    let manager : Manager :=
      .create ⟨fun _ => .ok .empty⟩ ⟨fun _ _ => .ok (.reporting [])⟩ ⟨.es5⟩
    let files := ((FileSystem.onSnapshot .empty).write "/s" ['a']).1
    let session : Session := ⟨settings, some ⟨2⟩, some (.create s!"sandbox-{0}" files (.reporting [])),
      some ((Worker.start 500).submit (.content ['a'] false)),
      ⟨⟨.editable ⟨2⟩ [], ⟨['a']⟩, [], [], 1, false⟩, .quiet, []⟩, true⟩
    (∃ supplier, openEditable manager ['a'] settings = some (supplier, .ok session)) ∧
      ∃ middle final, session.edit (.insertion 1 ['\n', 'b']) = some (middle, .ok .applied) ∧
        middle.edit (.deletion 1 2) = some (final, .ok .rejected) ∧
        middle.text = ['a', '\n', 'b'] ∧
        final.document.lineText? 1 = some ['a'] ∧ final.document.lineText? 2 = some ['b'] := by
  intro settings manager files session
  obtain ⟨supplier, opened⟩ : ∃ supplier,
      openEditable manager ['a'] settings = some (supplier, .ok session) := ⟨_, rfl⟩
  obtain ⟨middle, final, inserted, deleted, document⟩ : ∃ middle final,
      session.edit (.insertion 1 ['\n', 'b']) = some (middle, .ok .applied) ∧
        middle.edit (.deletion 1 2) = some (final, .ok .rejected) ∧
        middle.document = ⟨['a', '\n', 'b']⟩ := ⟨_, _, rfl, rfl, rfl⟩
  have reached : session.play [.edit (.insertion 1 ['\n', 'b'])] = some middle := by
    rw [play, act, inserted]
    rfl
  have played : middle.play [.edit (.deletion 1 2)] = some final := by
    rw [play, act, deleted]
    rfl
  have typed : ∀ text, Action.setCode text ∉
      [Action.edit (.insertion 1 ['\n', 'b'])] ++ [Action.edit (.deletion 1 2)] := by
    intro text member
    simp at member
  obtain ⟨_, _, first, second⟩ := header_lines_kept (Or.inl opened) typed reached played
  rw [document] at second
  exact ⟨⟨supplier, opened⟩, middle, final, inserted, deleted, congrArg Document.text document,
    (first 1 (by decide)).2, (second 2 (by decide)).2⟩

end Session

end StrategyDesk
