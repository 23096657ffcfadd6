import StrategyDesk.Document.Buffer
import StrategyDesk.Proofs.Document.Tiling

/-!
# What the index of a buffer says

The index that is read off a text holds the starts of its lines and its length. Halving finds, among
the starts, how many stand at or before a position. So all that is looked up in a fresh buffer is
what the document itself answers.
-/

set_option autoImplicit false

namespace StrategyDesk

/-! ## Reading a text into an index -/

/-- The positions behind the line feeds of a text that begins at `position`. -/
def startsBehind (position : Nat) : Text → List Nat
  | [] => []
  | c :: rest =>
      if c = '\n' then (position + 1) :: startsBehind (position + 1) rest
      else startsBehind (position + 1) rest

theorem Document.layLines_starts (number position : Nat) (text : Text) :
    (layLines number position text.lines).map Line.start =
      position :: startsBehind position text := by
  induction text generalizing number position with
  | nil => rfl
  | cons c rest ih =>
      unfold Text.lines at ih ⊢
      rw [List.splitOn_cons_eq_if_modifyHead, startsBehind]
      by_cases feed : c = '\n'
      · rw [if_pos (beq_iff_eq.mpr feed), if_pos feed, layLines, List.map_cons, ih]
        rfl
      · rw [if_neg (fun same => feed (beq_iff_eq.mp same)), if_neg feed]
        obtain ⟨first, others, pieces⟩ :=
          List.exists_cons_of_ne_nil (List.splitOn_ne_nil '\n' rest)
        have onward := ih number (position + 1)
        rw [pieces, layLines, List.map_cons, List.cons.injEq] at onward
        rw [← onward.2, pieces, List.modifyHead_cons, layLines, List.map_cons, List.length_cons,
          Nat.add_comm first.length 1, ← Nat.add_assoc]

namespace LineIndex

theorem foldl_read (text : Text) (index : LineIndex) :
    (text.foldl read index).starts.toList =
        index.starts.toList ++ startsBehind index.length text ∧
      (text.foldl read index).length = index.length + text.length := by
  induction text generalizing index with
  | nil => simp [startsBehind]
  | cons c rest ih =>
      obtain ⟨starts, length⟩ := ih (index.read c)
      rw [List.foldl_cons, starts, length, startsBehind, List.length_cons]
      refine ⟨?_, by simp only [read]; omega⟩
      by_cases feed : c = '\n' <;> simp [read, feed]

theorem starts_ofText (text : Text) :
    (ofText text).starts.toList = (Document.lines ⟨text⟩).map Line.start := by
  have read_off := (foldl_read text ⟨#[0], 0⟩).1
  rw [Document.lines, Document.layLines_starts]
  exact read_off

theorem length_ofText (text : Text) : (ofText text).length = text.length := by
  have read_off := (foldl_read text ⟨#[0], 0⟩).2
  rw [Nat.zero_add] at read_off
  exact read_off

theorem bisect_eq {before : Nat → Bool} {low count bound : Nat}
    (until_bound : ∀ place, before place = true ↔ place < bound) (above : low ≤ bound)
    (within : bound ≤ low + count) : bisect before low count = bound := by
  fun_induction bisect before low count with
  | case1 low => omega
  | case2 low count some_left middle holds ih =>
      have passed := (until_bound middle).mp holds
      exact ih passed (by omega)
  | case3 low count some_left middle fails ih =>
      have reached := mt (until_bound middle).mpr fails
      exact ih above (by omega)

end LineIndex

namespace Buffer

/-! ## A buffer against its document -/

/-- The document with the text of a buffer. -/
def document (buffer : Buffer) : Document := ⟨buffer.text.toList⟩

/-- Whether what stands beside the text is what a reading of the text gives. -/
def InStep (buffer : Buffer) : Prop := buffer = ofText buffer.text

variable {buffer : Buffer}

theorem inStep_ofText (text : String) : (ofText text).InStep := rfl

theorem InStep.starts (fresh : buffer.InStep) :
    buffer.index.starts.toList = buffer.document.lines.map Line.start := by
  rw [fresh]
  exact LineIndex.starts_ofText buffer.text.toList

theorem InStep.length (fresh : buffer.InStep) : buffer.length = buffer.document.length := by
  rw [fresh]
  exact LineIndex.length_ofText buffer.text.toList

theorem InStep.start (fresh : buffer.InStep) (place : Nat) :
    buffer.index.starts[place]? = (buffer.document.line? (place + 1)).map Line.start := by
  rw [← Array.getElem?_toList, fresh.starts, List.getElem?_map]
  rfl

theorem InStep.lineCount (fresh : buffer.InStep) :
    buffer.lineCount = buffer.document.lineCount := by
  rw [Buffer.lineCount, ← Array.length_toList, fresh.starts, List.length_map, Document.lineCount]

/-- A line of the index stops where the line of the document does: before the next one, or with the
text. -/
theorem InStep.line? (fresh : buffer.InStep) (number : Nat) :
    buffer.line? number = buffer.document.line? number := by
  cases number with
  | zero => rfl
  | succ place =>
      rw [Buffer.line?, fresh.start, fresh.start]
      cases found : buffer.document.line? (place + 1) with
      | none => rfl
      | some line =>
          have numbered := Document.number_of_line? found
          rw [Option.map_some, Option.map_some]
          cases follows : buffer.document.line? (place + 1 + 1) with
          | some next =>
              have adjacent := Document.start_of_next found follows
              simp only [Option.map_some, adjacent, Nat.add_sub_cancel, ← numbered]
          | none =>
              have present := Document.line?_isSome_iff.mp (Option.isSome_of_eq_some found)
              have counted : place + 1 = buffer.document.lineCount :=
                Nat.le_antisymm present.2 (Document.lineCount_le_of_absent follows)
              rw [counted] at found
              have ends := Document.stop_of_last found
              simp only [Option.map_none, fresh.length, ← ends, ← numbered]

/-- As many lines start at or before a position inside as the number of its line says. -/
theorem InStep.numberAt (fresh : buffer.InStep) (position : Nat) :
    buffer.numberAt position = (buffer.document.lineAt position).number := by
  obtain ⟨found, begun, reaches⟩ := buffer.document.lineAt_holds position
  have present := Document.line?_isSome_iff.mp (Option.isSome_of_eq_some found)
  have counted : buffer.index.startedBy (min position buffer.length) =
      (buffer.document.lineAt position).number := by
    refine LineIndex.bisect_eq ?_ (Nat.zero_le _) ?_
    · intro place
      rw [fresh.start, fresh.length]
      cases here : buffer.document.line? (place + 1) with
      | none =>
          have beyond := Document.lineCount_le_of_absent here
          simp only [Option.map_none, Option.any_none, Bool.false_eq_true, false_iff]
          omega
      | some line =>
          simp only [Option.map_some, Option.any_some, decide_eq_true_eq]
          rcases Nat.lt_trichotomy (place + 1) (buffer.document.lineAt position).number with
            less | same | more
          · have apart := Document.stop_lt_start here found less
            have bounds := Document.start_le_stop here
            omega
          · rw [same, found] at here
            cases here
            omega
          · have apart := Document.stop_lt_start found here more
            omega
    · rw [Nat.zero_add, ← Array.length_toList, fresh.starts, List.length_map]
      exact present.2
  rw [Buffer.numberAt, counted]
  omega

/-- The line of a position is found by its number, and is the one of the document. -/
theorem InStep.lineAt (fresh : buffer.InStep) (position : Nat) :
    buffer.line? (buffer.numberAt position) = some (buffer.lineAt position) ∧
      buffer.lineAt position = buffer.document.lineAt position := by
  have looked : buffer.line? (buffer.numberAt position) =
      some (buffer.document.lineAt position) := by
    rw [fresh.line?, fresh.numberAt]
    exact (buffer.document.lineAt_holds position).1
  have same : buffer.lineAt position = buffer.document.lineAt position := by
    rw [Buffer.lineAt, looked]
    rfl
  rw [same]
  exact ⟨looked, rfl⟩

end Buffer

end StrategyDesk
