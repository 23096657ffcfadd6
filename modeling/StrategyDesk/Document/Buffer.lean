import StrategyDesk.Document.Rejection

/-!
# Documents in memory

A document is held as the bytes of its text. Beside them stand the positions where its lines start
and the number of its characters, so that lines are looked up without reading the text. Positions
count characters: an edit first finds the bytes that they stand for, and afterwards reads the whole
text again to renew what stands beside it.
-/

set_option autoImplicit false

namespace StrategyDesk

/-- What is kept of a text so as not to read it again. -/
structure LineIndex where
  starts : Array Nat
  length : Nat
deriving DecidableEq, Repr

namespace LineIndex

/-- The index after one more character. A line feed starts a line behind it. -/
def read (index : LineIndex) (c : Char) : LineIndex :=
  let length := index.length + 1
  ⟨if c = '\n' then index.starts.push length else index.starts, length⟩

def ofText (text : Text) : LineIndex := text.foldl read ⟨#[0], 0⟩

/-- Among `count` places from `low` on, the first one that `before` does not hold of. It is found by
halving: where `before` holds of a place, it holds of all earlier ones. -/
def bisect (before : Nat → Bool) (low count : Nat) : Nat :=
  if count = 0 then low
  else
    let middle := low + count / 2
    if before middle then bisect before (middle + 1) (count - count / 2 - 1)
    else bisect before low (count / 2)
termination_by count
decreasing_by all_goals omega

def startedBy (index : LineIndex) (position : Nat) : Nat :=
  bisect (fun place => index.starts[place]?.any (· ≤ position)) 0 index.starts.size

end LineIndex

/-- The offsets in bytes at which the characters of a text begin, if the first begins at `start`. -/
def byteOffsets (start : Nat) : Text → List Nat
  | [] => []
  | c :: rest => start :: byteOffsets (start + c.utf8Size) rest

/-- What stands before, between and after two offsets in bytes. Both have to lie where a character
begins or the text ends, and the first may not exceed the second. -/
def cutBytes? (text : String) (start stop : Nat) : Option (String × String × String) := do
  let first ← text.pos? ⟨start⟩
  let last ← text.pos? ⟨stop⟩
  let between ← text.slice? first last
  pure ((text.sliceTo first).copy, between.copy, (text.sliceFrom last).copy)

structure Buffer where
  text : String
  index : LineIndex
deriving DecidableEq, Repr

namespace Buffer

def ofText (text : String) : Buffer := ⟨text, .ofText text.toList⟩

def length (buffer : Buffer) : Nat := buffer.index.length

def isEmpty (buffer : Buffer) : Bool := buffer.length == 0

def lineCount (buffer : Buffer) : Nat := buffer.index.starts.size

/-- The line with the given number. It stops before the line feed that starts the next one. -/
def line? (buffer : Buffer) : Nat → Option Line
  | 0 => none
  | place + 1 =>
      buffer.index.starts[place]?.map fun start =>
        match buffer.index.starts[place + 1]? with
        | some next => ⟨place + 1, start, next - 1⟩
        | none => ⟨place + 1, start, buffer.length⟩

/-- The number of the line that holds the position. Positions past the end belong to the last one. -/
def numberAt (buffer : Buffer) (position : Nat) : Nat :=
  max (buffer.index.startedBy (min position buffer.length)) 1

/-- The line that holds the position, and one line over the whole text if there is none. -/
def lineAt (buffer : Buffer) (position : Nat) : Line :=
  (buffer.line? (buffer.numberAt position)).getD ⟨1, 0, buffer.length⟩

/-- The byte with which the character at the position begins, and the end for positions past it. -/
def byteAt (buffer : Buffer) (position : Nat) : Nat :=
  (byteOffsets 0 buffer.text.toList)[position]?.getD buffer.text.utf8ByteSize

def lineText? (buffer : Buffer) (number : Nat) : Option String := do
  let line ← buffer.line? number
  let (_, between, _) ← cutBytes? buffer.text (buffer.byteAt line.start) (buffer.byteAt line.stop)
  pure between

/-- Replaces the characters from `start` up to `stop`, and tells whether that was possible. There is
no answer if the bytes found for them do not lie between characters. -/
def replace (buffer : Buffer) (start stop : Nat) (insert : String) :
    Option (Buffer × Except Failure Unit) :=
  if start > stop ∨ stop > buffer.length then
    some (buffer, .error (.invalidRange start stop buffer.length))
  else do
    let (before, _, after) ← cutBytes? buffer.text (buffer.byteAt start) (buffer.byteAt stop)
    pure (ofText (before ++ insert ++ after), .ok ())

def apply (buffer : Buffer) (change : Change) : Option (Buffer × Except Failure Unit) :=
  buffer.replace change.start change.stop (.ofList change.insert)

/-- Carries out changes one after the other. Those that are refused leave the buffer as it is. -/
def applyAll (buffer : Buffer) : List Change → Option Buffer
  | [] => some buffer
  | change :: rest => do
      let (after, _) ← buffer.apply change
      after.applyAll rest

/-- The number as a signed word of 64 bits, or the largest one if it exceeds them. -/
def signedWord (number : Nat) : Int64 :=
  if number ≤ Int64.maxValue.toNatClampNeg then .ofNat number else .maxValue

/-- The position that a 1-based offset means, moved to the nearer end when it lies outside. The
offset before the smallest one is that one itself. -/
def positionOf (buffer : Buffer) (offset : Int64) : Nat :=
  let last := signedWord buffer.length
  let position := if offset = .minValue then offset else offset - 1
  let position := if position < 0 then 0 else if last < position then last else position
  position.toInt.toNat

theorem number_of_line? {buffer : Buffer} {number : Nat} {line : Line}
    (found : buffer.line? number = some line) : line.number = number := by
  cases number with
  | zero => cases found
  | succ place =>
      obtain ⟨start, -, rfl⟩ := Option.map_eq_some_iff.mp found
      split <;> rfl

/-- The line itself if it is not empty, else the nearest one above that is not, and the first line
when all of them are empty. -/
def walkUp (buffer : Buffer) (line : Line) : Line :=
  if line.isEmpty ∧ line.number > 1 then
    match _above : buffer.line? (line.number - 1) with
    | some previous => buffer.walkUp previous
    | none => line
  else line
termination_by line.number
decreasing_by
  have number := number_of_line? _above
  omega

def faultLine (buffer : Buffer) (offset : Int64) : LineRange :=
  let line := buffer.walkUp (buffer.lineAt (buffer.positionOf offset))
  ⟨line.number, line.start, line.stop⟩

end Buffer

end StrategyDesk
