import StrategyDesk.Proofs.Document.Splice

/-!
# Looking up lines in a buffer

After any changes the lines of a buffer tile its text, and each position leads to the one line that
holds it. Looking it up never falls back on a line over the whole text.
-/

set_option autoImplicit false

namespace StrategyDesk

theorem Document.newline_notMem_line {doc : Document} {number position : Nat} {line : Line}
    (found : doc.line? number = some line) (begun : line.start ≤ position)
    (before : position < line.stop) : doc.text[position]? ≠ some '\n' := by
  cases number with
  | zero => cases found
  | succ place =>
      intro feed
      have piece : doc.text.lines[place]? = some (Text.slice line.start line.stop doc.text) := by
        rw [← lineText?_succ, lineText?, found]
        rfl
      refine Text.newline_notMem_of_mem_lines (List.mem_of_getElem? piece) ?_
      refine List.mem_of_getElem? (i := position - line.start) ?_
      rw [Text.slice, List.getElem?_drop, Nat.add_sub_cancel' begun,
        List.getElem?_take_of_lt before, feed]

namespace Buffer

variable {buffer : Buffer}

structure Tiled (buffer : Buffer) : Prop where
  present : ∀ number, (buffer.line? number).isSome ↔ 1 ≤ number ∧ number ≤ buffer.lineCount
  first : ∃ line, buffer.line? 1 = some line ∧ line.start = 0
  next : ∀ number line next, buffer.line? number = some line →
    buffer.line? (number + 1) = some next → next.start = line.stop + 1
  last : ∃ line, buffer.line? buffer.lineCount = some line ∧ line.stop = buffer.length
  length : buffer.length = buffer.text.toList.length
  ordered : ∀ number line, buffer.line? number = some line → line.start ≤ line.stop
  unbroken : ∀ number line, buffer.line? number = some line →
    ∀ position, line.start ≤ position → position < line.stop →
      buffer.text.toList[position]? ≠ some '\n'
  joined : ∃ pieces : List String,
    (List.range buffer.lineCount).map (fun place => buffer.lineText? (place + 1)) =
      pieces.map some ∧ "\n".intercalate pieces = buffer.text
  found : ∀ position,
    buffer.line? (buffer.numberAt position) = some (buffer.lineAt position)
  held : ∀ position, (buffer.lineAt position).start ≤ min position buffer.length ∧
    min position buffer.length ≤ (buffer.lineAt position).stop
  unique : ∀ position number line, buffer.line? number = some line →
    line.start ≤ min position buffer.length → min position buffer.length ≤ line.stop →
      line = buffer.lineAt position
  monotone : ∀ before after, before ≤ after →
    (buffer.lineAt before).number ≤ (buffer.lineAt after).number

theorem InStep.lineText?_succ (fresh : buffer.InStep) (place : Nat) :
    buffer.lineText? (place + 1) = buffer.document.text.lines[place]?.map String.ofList := by
  rw [← Document.lineText?_succ, ← fresh.lineText?, Option.map_map, String.ofList_comp_toList,
    Option.map_id]
  rfl

theorem InStep.joined (fresh : buffer.InStep) :
    (List.range buffer.lineCount).map (fun place => buffer.lineText? (place + 1)) =
      (buffer.document.text.lines.map String.ofList).map some := by
  apply List.ext_getElem?
  intro place
  rw [List.getElem?_map, List.getElem?_map, List.getElem?_map, fresh.lineCount,
    Document.lineCount_eq]
  by_cases inside : place < buffer.document.text.lines.length
  · rw [List.getElem?_range inside, Option.map_some, fresh.lineText?_succ,
      List.getElem?_eq_getElem inside]
    rfl
  · rw [List.getElem?_eq_none (by rw [List.length_range]; omega),
      List.getElem?_eq_none (by omega)]
    rfl

theorem intercalate_pieces (text : String) :
    "\n".intercalate ((Text.lines text.toList).map String.ofList) = text := by
  rw [← String.toList_inj, String.toList_intercalate, List.map_map, String.toList_comp_ofList,
    List.map_id]
  exact Text.intercalate_lines text.toList

theorem InStep.tiled (fresh : buffer.InStep) : buffer.Tiled := by
  have some_line : 1 ≤ buffer.document.lineCount := by
    rw [Document.lineCount_eq]
    exact List.length_pos_of_ne_nil (Text.lines_ne_nil _)
  have length := fresh.length
  constructor
  case present =>
    intro number
    rw [fresh.line?, fresh.lineCount]
    exact Document.line?_isSome_iff
  case first =>
    obtain ⟨line, found⟩ := Option.isSome_iff_exists.mp
      (Document.line?_isSome_iff.mpr ⟨Nat.le_refl 1, some_line⟩)
    exact ⟨line, (fresh.line? 1).trans found, Document.start_of_first found⟩
  case next =>
    intro number line next found follows
    rw [fresh.line?] at found follows
    exact Document.start_of_next found follows
  case last =>
    obtain ⟨line, found⟩ := Option.isSome_iff_exists.mp
      (Document.line?_isSome_iff.mpr ⟨some_line, Nat.le_refl _⟩)
    refine ⟨line, ?_, (Document.stop_of_last found).trans length.symm⟩
    rw [fresh.line?, fresh.lineCount]
    exact found
  case length => exact length
  case ordered =>
    intro number line found
    rw [fresh.line?] at found
    exact Document.start_le_stop found
  case unbroken =>
    intro number line found position begun before
    rw [fresh.line?] at found
    exact Document.newline_notMem_line found begun before
  case joined => exact ⟨_, fresh.joined, intercalate_pieces buffer.text⟩
  case found => exact fun position => (fresh.lineAt position).1
  case held =>
    intro position
    rw [(fresh.lineAt position).2, length]
    exact (buffer.document.lineAt_holds position).2
  case unique =>
    intro position number line found begun reaches
    rw [fresh.line?] at found
    rw [(fresh.lineAt position).2]
    rw [length] at begun reaches
    obtain ⟨looked, holds⟩ := buffer.document.lineAt_holds position
    have numbered := Document.number_of_line? found
    exact Document.eq_of_holds looked (numbered.symm ▸ found) holds ⟨begun, reaches⟩
  case monotone =>
    intro before after ordered
    rw [(fresh.lineAt before).2, (fresh.lineAt after).2]
    exact buffer.document.lineAt_number_mono ordered

/-- A buffer over a text, after any changes, is tiled by its lines, and answers as the document that
has undergone the changes. -/
theorem lines_tile (text : String) (changes : List Change) :
    ∃ buffer, (ofText text).applyAll changes = some buffer ∧ buffer.Tiled ∧
      buffer.Answers (Document.applyAll ⟨text.toList⟩ changes) := by
  obtain ⟨buffer, carried, fresh, edited⟩ := exists_applyAll text changes
  exact ⟨buffer, carried, fresh.tiled, edited ▸ fresh.answers⟩

end Buffer

end StrategyDesk
