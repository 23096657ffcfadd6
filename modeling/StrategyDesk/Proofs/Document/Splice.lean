import StrategyDesk.Proofs.Document.Index

/-!
# Replacements in a buffer

The bytes of a character begin after the bytes of the characters before it. So cutting the bytes
where two positions lie cuts the text between characters, and a replacement splices characters. The
index is renewed with it, so that a buffer answers, after any list of replacements, as the document
that has undergone them.
-/

set_option autoImplicit false

namespace StrategyDesk

/-! ## Bytes and characters -/

theorem byteOffsets_getD (start : Nat) (text : Text) (position : Nat) :
    (byteOffsets start text)[position]?.getD (start + (String.ofList text).utf8ByteSize) =
      start + (String.ofList (text.take position)).utf8ByteSize := by
  induction text generalizing start position with
  | nil => simp [byteOffsets]
  | cons c rest ih =>
      cases position with
      | zero => simp [byteOffsets]
      | succ position =>
          have sizes (others : Text) : start + (String.ofList (c :: others)).utf8ByteSize =
              start + c.utf8Size + (String.ofList others).utf8ByteSize := by
            rw [String.ofList_cons, String.utf8ByteSize_append, String.utf8ByteSize_singleton,
              Nat.add_assoc]
          rw [byteOffsets, List.getElem?_cons_succ, List.take_succ_cons, sizes, sizes, ih]

theorem Buffer.byteAt_eq (buffer : Buffer) (position : Nat) :
    buffer.byteAt position =
      (String.ofList (buffer.text.toList.take position)).utf8ByteSize := by
  have found := byteOffsets_getD 0 buffer.text.toList position
  rw [String.ofList_toList, Nat.zero_add, Nat.zero_add] at found
  exact found

theorem pos?_of_append {text before after : String} (whole : text = before ++ after) :
    ∃ place, text.pos? ⟨before.utf8ByteSize⟩ = some place ∧ place.Splits before after := by
  have valid : String.Pos.Raw.IsValid text ⟨before.utf8ByteSize⟩ :=
    String.Pos.Raw.isValid_iff_exists_append.mpr ⟨before, after, whole, rfl⟩
  refine ⟨text.pos _ valid, ?_, ⟨whole, rfl⟩⟩
  unfold String.pos? String.Slice.pos?
  rw [dif_pos (String.Pos.Raw.isValidForSlice_eq_true_iff.mpr valid.toSlice)]
  rfl

theorem cutBytes?_of_append {text before between after : String}
    (whole : text = before ++ between ++ after) :
    cutBytes? text before.utf8ByteSize (before ++ between).utf8ByteSize =
      some (before, between, after) := by
  obtain ⟨first, placed, opens⟩ := pos?_of_append (whole.trans (String.append_assoc ..))
  obtain ⟨last, reached, closes⟩ := pos?_of_append whole
  obtain ⟨ordered, middle⟩ := String.copy_slice_eq_iff_splits.mpr ⟨before, after, opens, closes⟩
  unfold cutBytes?
  rw [placed, reached]
  simp only [Option.bind_eq_bind, Option.bind_some, String.slice?, dif_pos ordered, middle,
    opens.copy_sliceTo_eq, closes.copy_sliceFrom_eq]
  rfl

theorem Buffer.cutBytes?_at (buffer : Buffer) {start stop : Nat} (ordered : start ≤ stop) :
    cutBytes? buffer.text (buffer.byteAt start) (buffer.byteAt stop) =
      some (.ofList (buffer.text.toList.take start),
        .ofList (Text.slice start stop buffer.text.toList),
        .ofList (buffer.text.toList.drop stop)) := by
  have front : buffer.text.toList.take start ++ Text.slice start stop buffer.text.toList =
      buffer.text.toList.take stop := by
    have cut := List.take_append_drop start (buffer.text.toList.take stop)
    rw [List.take_take, Nat.min_eq_left ordered] at cut
    exact cut
  have whole : buffer.text = String.ofList (buffer.text.toList.take start) ++
      String.ofList (Text.slice start stop buffer.text.toList) ++
        String.ofList (buffer.text.toList.drop stop) := by
    rw [← String.ofList_append, ← String.ofList_append, front, List.take_append_drop,
      String.ofList_toList]
  rw [buffer.byteAt_eq, buffer.byteAt_eq, ← front, String.ofList_append]
  exact cutBytes?_of_append whole

/-! ## What a buffer answers -/

namespace Buffer

/-- Whether a buffer answers every question as the document does. -/
structure Answers (buffer : Buffer) (doc : Document) : Prop where
  text : buffer.text.toList = doc.text
  length : buffer.length = doc.length
  lineCount : buffer.lineCount = doc.lineCount
  line? : ∀ number, buffer.line? number = doc.line? number
  lineText? : ∀ number, (buffer.lineText? number).map String.toList = doc.lineText? number
  lineAt : ∀ position, buffer.lineAt position = doc.lineAt position

variable {buffer : Buffer}

theorem InStep.lineText? (fresh : buffer.InStep) (number : Nat) :
    (buffer.lineText? number).map String.toList = buffer.document.lineText? number := by
  rw [Buffer.lineText?, fresh.line?, Document.lineText?]
  cases found : buffer.document.line? number with
  | none => rfl
  | some line =>
      simp only [Option.bind_eq_bind, Option.bind_some, Option.map_some,
        buffer.cutBytes?_at (Document.start_le_stop found)]
      exact congrArg some String.toList_ofList

theorem InStep.answers (fresh : buffer.InStep) : buffer.Answers buffer.document where
  text := rfl
  length := fresh.length
  lineCount := fresh.lineCount
  line? := fresh.line?
  lineText? := fresh.lineText?
  lineAt := fun position => (fresh.lineAt position).2

/-! ## Replacements -/

theorem replace_inside {start stop : Nat} (insert : String) (ordered : start ≤ stop)
    (inside : stop ≤ buffer.length) :
    buffer.replace start stop insert =
      some (.ofText (.ofList (buffer.text.toList.take start ++ insert.toList ++
        buffer.text.toList.drop stop)), .ok ()) := by
  have accepted : ¬ (start > stop ∨ stop > buffer.length) := by omega
  rw [replace, if_neg accepted, buffer.cutBytes?_at ordered, String.ofList_append,
    String.ofList_append, String.ofList_toList]
  rfl

theorem replace_outside {start stop : Nat} (insert : String)
    (outside : ¬ (start ≤ stop ∧ stop ≤ buffer.length)) :
    buffer.replace start stop insert =
      some (buffer, .error (.invalidRange start stop buffer.length)) := by
  rw [replace, if_pos (by omega)]

end Buffer

/-- The document after changes one after the other, of which those that are refused do nothing. -/
def Document.applyAll (doc : Document) (changes : List Change) : Document :=
  changes.foldl (fun doc change => (doc.apply change).toOption.getD doc) doc

namespace Buffer

variable {buffer : Buffer}

/-- One change keeps the index in step, and does to the characters what it does to the document. -/
theorem InStep.apply (fresh : buffer.InStep) (change : Change) :
    ∃ after outcome, buffer.apply change = some (after, outcome) ∧ after.InStep ∧
      after.document = (buffer.document.apply change).toOption.getD buffer.document := by
  unfold Buffer.apply Document.apply Document.replace
  rw [← fresh.length]
  by_cases inside : change.start ≤ change.stop ∧ change.stop ≤ buffer.length
  · refine ⟨_, _, replace_inside _ inside.1 inside.2, inStep_ofText _, ?_⟩
    rw [if_neg (by omega), String.toList_ofList, document, ofText, String.toList_ofList]
    rfl
  · refine ⟨_, _, replace_outside _ inside, fresh, ?_⟩
    rw [if_pos (by omega)]
    rfl

theorem InStep.applyAll (fresh : buffer.InStep) (changes : List Change) :
    ∃ after, buffer.applyAll changes = some after ∧ after.InStep ∧
      after.document = buffer.document.applyAll changes := by
  induction changes generalizing buffer with
  | nil => exact ⟨buffer, rfl, fresh, rfl⟩
  | cons change rest ih =>
      obtain ⟨middle, outcome, changed, renewed, edited⟩ := fresh.apply change
      obtain ⟨after, carried, last, spliced⟩ := ih renewed
      refine ⟨after, ?_, last, ?_⟩
      · rw [Buffer.applyAll, changed]
        exact carried
      · rw [spliced, edited]
        rfl

/-- A buffer over a text, after any changes, is in step with its characters. -/
theorem exists_applyAll (text : String) (changes : List Change) :
    ∃ buffer, (ofText text).applyAll changes = some buffer ∧ buffer.InStep ∧
      buffer.document = Document.applyAll ⟨text.toList⟩ changes :=
  (inStep_ofText text).applyAll changes

/-- In a buffer over a text, after any changes, a replacement succeeds exactly if it is given a part
of the text. Then it splices the characters and the buffer is the one of the new text; else the
refusal names the range, and nothing is changed. -/
theorem replacement_splices (text : String) (changes : List Change) (start stop : Nat)
    (insert : String) :
    ∃ buffer after outcome,
      (ofText text).applyAll changes = some buffer ∧
      buffer = ofText buffer.text ∧
      buffer.Answers (Document.applyAll ⟨text.toList⟩ changes) ∧
      buffer.replace start stop insert = some (after, outcome) ∧
      (outcome = .ok () ↔ start ≤ stop ∧ stop ≤ buffer.text.toList.length) ∧
      (outcome = .ok () →
        after.text.toList =
          buffer.text.toList.take start ++ insert.toList ++ buffer.text.toList.drop stop ∧
        after = ofText after.text ∧ after.Answers ⟨after.text.toList⟩) ∧
      (outcome ≠ .ok () →
        outcome = .error (.invalidRange start stop buffer.text.toList.length) ∧
          after = buffer) := by
  obtain ⟨buffer, carried, fresh, spliced⟩ := exists_applyAll text changes
  have answers := fresh.answers
  have length : buffer.length = buffer.text.toList.length := answers.length
  rw [spliced] at answers
  by_cases inside : start ≤ stop ∧ stop ≤ buffer.length
  · refine ⟨buffer, _, _, carried, fresh, answers, replace_inside insert inside.1 inside.2,
      ?_, ?_, ?_⟩
    · exact iff_of_true rfl (length ▸ inside)
    · intro _
      exact ⟨String.toList_ofList, rfl, (inStep_ofText _).answers⟩
    · intro failed
      exact absurd rfl failed
  · refine ⟨buffer, _, _, carried, fresh, answers, replace_outside insert inside, ?_, ?_, ?_⟩
    · exact iff_of_false nofun (length ▸ inside)
    · intro accepted
      cases accepted
    · intro _
      exact ⟨by rw [length], rfl⟩

example : (ofText "é\nü").replace 0 1 "e" = some (ofText "e\nü", .ok ()) := by cbv

end Buffer

end StrategyDesk
