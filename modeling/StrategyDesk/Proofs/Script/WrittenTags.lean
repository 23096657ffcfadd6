import StrategyDesk.Proofs.Document.Lines
import StrategyDesk.Proofs.Script.Trimmed
import StrategyDesk.Script.Documentation

/-!
# Tags that are written and read back

A list of tags can be written as a documentation comment, with a line for each name and one for each
line of text. Read back, the comment has the same tags in the same order, each with its lines. The
star that leads a line is taken once, so a line of the text may begin with stars itself.
-/

set_option autoImplicit false

namespace StrategyDesk.Script

/-- A tag as it is written: its name, and the lines of its text. -/
structure WrittenTag where
  name : Text
  lines : List Text
deriving DecidableEq, Repr

namespace WrittenTag

/-- Whether a tag can be told from what is around it in a comment: its name is one word, and its
lines are trimmed, open no tag and do not begin or end the text with an empty one. -/
structure WellFormed (tag : WrittenTag) : Prop where
  solid : ∀ c ∈ tag.name, Text.isBlank c = false
  trimmed : ∀ line ∈ tag.lines, Text.trim line = line
  whole : ∀ line ∈ tag.lines, '\n' ∉ line
  untagged : ∀ line ∈ tag.lines, line.head? ≠ some '@'
  begins : tag.lines.head? ≠ some []
  ends : tag.lines.getLast? ≠ some []

instance (tag : WrittenTag) : Decidable tag.WellFormed :=
  decidable_of_iff
    (tag.name.all (fun c => !Text.isBlank c) = true ∧ (∀ line ∈ tag.lines, Text.trim line = line) ∧
      (∀ line ∈ tag.lines, '\n' ∉ line) ∧ (∀ line ∈ tag.lines, line.head? ≠ some '@') ∧
      tag.lines.head? ≠ some [] ∧ tag.lines.getLast? ≠ some [])
    ⟨fun ⟨solid, trimmed, whole, untagged, begins, ends⟩ =>
        ⟨by simpa using solid, trimmed, whole, untagged, begins, ends⟩,
      fun formed =>
        ⟨by simpa using formed.solid, formed.trimmed, formed.whole, formed.untagged, formed.begins,
          formed.ends⟩⟩

def written (tag : WrittenTag) : List Text := ('@' :: tag.name) :: tag.lines

/-- The tag as it is to be shown: its lines joined, if there are any. -/
def docTag (tag : WrittenTag) : DocTag :=
  ⟨String.ofList tag.name,
    if tag.lines = [] then [] else [⟨String.ofList (['\n'].intercalate tag.lines), "text"⟩]⟩

end WrittenTag

def starred (line : Text) : Text := " * ".toList ++ line

def starredLines (lines : List Text) : Text := lines.flatMap fun line => starred line ++ ['\n']

def writtenComment (tags : List WrittenTag) : Text :=
  "/**\n".toList ++ (starredLines (tags.flatMap WrittenTag.written) ++ " */".toList)

/-! ## The lines of a written comment -/

theorem commentLine_starred {line : Text} (unpadded : Unpadded line) :
    commentLine (starred line) = line := by
  have blank : IsBlanks [' '] := List.all_eq_true.mp (by decide)
  have none_blank : IsBlanks [] := List.forall_mem_nil _
  -- Without the blanks the line is a star alone, or a star, a space and what is written.
  by_cases empty : line = []
  · rw [empty]
    decide
  · have starred_unpadded : Unpadded ('*' :: ' ' :: line) := by
      constructor
      · intro c first
        cases first
        decide
      · intro c last
        rw [List.getLast?_cons, List.getLast?_cons, List.getLast?_eq_some_getLast empty] at last
        cases last
        exact unpadded.ends _ (List.getLast?_eq_some_getLast empty)
    have around := trim_append blank none_blank starred_unpadded
    have inside := trim_append blank none_blank unpadded
    rw [List.append_nil] at around inside
    have trimmed : Text.trim (starred line) = '*' :: ' ' :: line := around
    rw [commentLine, trimmed]
    exact inside

theorem lines_starredLines {lines : List Text} (whole : ∀ line ∈ lines, '\n' ∉ line)
    (last : Text) :
    Text.lines (starredLines lines ++ last) = lines.map starred ++ Text.lines last := by
  induction lines with
  | nil => rfl
  | cons line lines ih =>
      have here : '\n' ∉ starred line := by
        rw [starred, List.mem_append, not_or]
        exact ⟨by decide, whole line List.mem_cons_self⟩
      have split : starredLines (line :: lines) ++ last =
          starred line ++ '\n' :: (starredLines lines ++ last) := by
        simp only [starredLines, List.flatMap_cons, List.append_assoc, List.cons_append,
          List.nil_append]
      have alone : Text.lines (starred line) = [starred line] := List.splitOn_eq_singleton here
      rw [split, Text.lines_append_newline, alone,
        ih fun other held => whole other (List.mem_cons_of_mem _ held)]
      rfl

/-- What is read of a comment of starred lines are these lines, between an empty line at the front
and one at the end. -/
theorem commentLines_starredLines {lines : List Text}
    (plain : ∀ line ∈ lines, '\n' ∉ line ∧ Unpadded line) :
    commentLines ("/**\n".toList ++ (starredLines lines ++ " */".toList)) =
      [] :: (lines ++ [[]]) := by
  have opened : dropOpeners ("/**\n".toList ++ (starredLines lines ++ " */".toList)) =
      '\n' :: (starredLines lines ++ [' ']) ++ ['*', '/'] := by
    simp [dropOpeners]
  have closed :
      (dropClosers ('\n' :: (starredLines lines ++ [' ']) ++ ['*', '/']).reverse).reverse =
      '\n' :: (starredLines lines ++ [' ']) := by
    simp [dropClosers]
  have cut : Text.lines ('\n' :: (starredLines lines ++ [' '])) =
      [] :: (lines.map starred ++ [[' ']]) := by
    have first := Text.lines_append_newline [] (starredLines lines ++ [' '])
    rw [lines_starredLines fun line held => (plain line held).1] at first
    exact first
  have read : (lines.map starred).map commentLine = lines := by
    rw [List.map_map]
    exact (List.map_congr_left fun line held => commentLine_starred (plain line held).2).trans
      (List.map_id lines)
  have ends : commentLine [] = [] ∧ commentLine [' '] = [] := by decide
  rw [commentLines, opened, closed, cut, List.map_cons, List.map_append, read, List.map_singleton,
    ends.1, ends.2]

theorem WrittenTag.WellFormed.mem_written {tag : WrittenTag} (formed : tag.WellFormed) {line : Text}
    (held : line ∈ tag.written) : '\n' ∉ line ∧ Unpadded line := by
  rcases List.mem_cons.mp held with rfl | held
  · have solid : ∀ c ∈ '@' :: tag.name, Text.isBlank c = false :=
      List.forall_mem_cons.mpr ⟨by decide, formed.solid⟩
    refine ⟨?_, .of_solid solid⟩
    intro newline
    exact absurd (solid _ newline) (by decide)
  · exact ⟨formed.whole line held, formed.trimmed line held ▸ unpadded_trim line⟩

/-! ## The tags of a written comment -/

theorem tagOpening?_name {name : Text} (solid : ∀ c ∈ name, Text.isBlank c = false) :
    tagOpening? ('@' :: name) = some (name, []) := by
  have taken : name.takeWhile (fun c => !Text.isBlank c) = name := by
    rw [List.takeWhile_eq_self_iff]
    intro c inside
    rw [solid c inside]
    rfl
  have left : name.dropWhile (fun c => !Text.isBlank c) = [] := by
    rw [List.dropWhile_eq_nil_iff]
    intro c inside
    rw [solid c inside]
    rfl
  have tagged : "@".toList.isPrefixOf? ('@' :: name) = some name :=
    List.isPrefixOf?_eq_some_iff_append_eq.mpr rfl
  simp only [tagOpening?, tagged, taken, left, Option.bind_eq_bind, Option.bind_some]
  rfl

theorem tagOpening?_untagged {line : Text} (untagged : line.head? ≠ some '@') :
    tagOpening? line = none := by
  have apart : "@".toList.isPrefixOf? line = none := by
    cases found : "@".toList.isPrefixOf? line with
    | none => rfl
    | some rest =>
        rw [← List.isPrefixOf?_eq_some_iff_append_eq.mp found] at untagged
        exact absurd rfl untagged
  simp only [tagOpening?, apart, Option.bind_eq_bind, Option.bind_none]

theorem foldr_takeLine_untagged {lines : List Text}
    (untagged : ∀ line ∈ lines, line.head? ≠ some '@')
    (later : List Text × List (Text × List Text)) :
    lines.foldr takeLine later = (lines ++ later.1, later.2) := by
  induction lines with
  | nil => rfl
  | cons line lines ih =>
      rw [List.foldr_cons, ih fun other held => untagged other (List.mem_cons_of_mem _ held),
        takeLine, tagOpening?_untagged (untagged line List.mem_cons_self)]
      rfl

theorem foldr_takeLine_written {tag : WrittenTag} (formed : tag.WellFormed)
    (later : List Text × List (Text × List Text)) :
    tag.written.foldr takeLine later = ([], (tag.name, tag.lines ++ later.1) :: later.2) := by
  rw [WrittenTag.written, List.foldr_cons, foldr_takeLine_untagged formed.untagged, takeLine,
    tagOpening?_name formed.solid]
  rfl

theorem prefix_intercalate (first : Text) (lines : List Text) :
    first <+: ['\n'].intercalate (first :: lines) := by
  cases lines with
  | nil => simp only [List.intercalate_singleton, List.prefix_refl]
  | cons next lines =>
      rw [List.intercalate_cons_cons, List.append_assoc]
      exact List.prefix_append _ _

theorem suffix_intercalate (lines : List Text) (last : Text) :
    last <:+ ['\n'].intercalate (lines ++ [last]) := by
  induction lines with
  | nil => simp only [List.nil_append, List.intercalate_singleton, List.suffix_refl]
  | cons line lines ih =>
      rw [List.cons_append, List.intercalate_cons_of_ne_nil (by simp)]
      exact ih.trans (List.suffix_append _ _)

theorem WrittenTag.WellFormed.text {tag : WrittenTag} (formed : tag.WellFormed)
    (lined : tag.lines ≠ []) :
    ['\n'].intercalate tag.lines ≠ [] ∧ Unpadded (['\n'].intercalate tag.lines) := by
  have unpadded {line : Text} (held : line ∈ tag.lines) : Unpadded line :=
    formed.trimmed line held ▸ unpadded_trim line
  have begins := formed.begins
  have ends := formed.ends
  obtain ⟨first, rest, front⟩ := List.exists_cons_of_ne_nil lined
  obtain ⟨start, last, back⟩ := (List.eq_nil_or_concat' tag.lines).resolve_left lined
  obtain ⟨behind, whole⟩ := prefix_intercalate first rest
  obtain ⟨before, whole'⟩ := suffix_intercalate start last
  have first_held : first ∈ tag.lines := by simp [front]
  have last_held : last ∈ tag.lines := by simp [back]
  rw [front] at begins
  rw [back, List.getLast?_concat] at ends
  rw [← front] at whole
  rw [← back] at whole'
  cases first with
  | nil => exact absurd rfl begins
  | cons c first =>
      rw [← whole]
      refine ⟨List.cons_ne_nil _ _, fun d head => (unpadded first_held).begins d head, ?_⟩
      rw [whole, ← whole']
      have filled : last ≠ [] := fun empty => ends (congrArg some empty)
      have final := List.getLast?_eq_some_getLast filled
      intro d tail
      rw [List.getLast?_append, final] at tail
      exact (unpadded last_held).ends d (final ▸ tail)

theorem docTag_eq {tag : WrittenTag} (formed : tag.WellFormed) {later : List Text}
    (empty : later = [] ∨ later = [[]]) : docTag (tag.name, tag.lines ++ later) = tag.docTag := by
  by_cases lined : tag.lines = []
  · have blank : Text.trim (['\n'].intercalate later) = [] := by
      rcases empty with rfl | rfl
      · rfl
      · rfl
    simp only [docTag, WrittenTag.docTag, lined, List.nil_append, blank, if_pos]
  · obtain ⟨filled, unpadded⟩ := formed.text lined
    have trimmed : Text.trim (['\n'].intercalate (tag.lines ++ later)) =
        ['\n'].intercalate tag.lines := by
      rcases empty with rfl | rfl
      · rw [List.append_nil, trim_of_unpadded unpadded]
      · have feed : IsBlanks ['\n'] := List.all_eq_true.mp (by decide)
        have last := Text.intercalate_take_drop (List.length_pos_of_ne_nil lined)
          (Nat.lt_of_lt_of_eq (Nat.lt_succ_self _) (@List.length_append _ _ [[]]).symm)
        rw [List.take_left, List.drop_left, List.intercalate_singleton] at last
        rw [last]
        exact trim_append (List.forall_mem_nil _) feed unpadded
    simp only [docTag, WrittenTag.docTag, trimmed, if_neg filled, if_neg lined]

theorem docTags_read {tags : List WrittenTag} (formed : ∀ tag ∈ tags, tag.WellFormed) :
    let read := (tags.flatMap WrittenTag.written).foldr takeLine ([[]], [])
    (read.1 = [] ∨ read.1 = [[]]) ∧ read.2.map docTag = tags.map WrittenTag.docTag := by
  induction tags with
  | nil => exact ⟨Or.inr rfl, rfl⟩
  | cons tag tags ih =>
      obtain ⟨empty, read⟩ := ih fun other held => formed other (List.mem_cons_of_mem _ held)
      have here := formed tag List.mem_cons_self
      rw [List.flatMap_cons, List.foldr_append, foldr_takeLine_written here]
      refine ⟨Or.inl rfl, ?_⟩
      rw [List.map_cons, List.map_cons, docTag_eq here empty, read]

/-- Tags that are written as a comment, one line for each name and one for each line of text, are
read back in their order, each with its lines. -/
theorem written_tags_read_back {tags : List WrittenTag} (formed : ∀ tag ∈ tags, tag.WellFormed) :
    docTags (writtenComment tags) = tags.map WrittenTag.docTag := by
  have plain : ∀ line ∈ tags.flatMap WrittenTag.written, '\n' ∉ line ∧ Unpadded line := by
    intro line held
    obtain ⟨tag, listed, held⟩ := List.mem_flatMap.mp held
    exact (formed tag listed).mem_written held
  have last : [[]].foldr takeLine ([], []) = ([[]], []) := rfl
  rw [docTags, writtenComment, commentLines_starredLines plain, List.foldr_cons,
    List.foldr_append, last]
  exact (docTags_read formed).2

/-- A tag with a line that begins with a star and an empty one, and a tag without lines. -/
def someTags : List WrittenTag :=
  [⟨"example".toList, ["* a".toList, [], "b - c".toList]⟩, ⟨"internal".toList, []⟩]

theorem starred_line_read_back :
    (∀ tag ∈ someTags, tag.WellFormed) ∧
      docTags (writtenComment someTags) =
        [⟨"example", [⟨"* a\n\nb - c", "text"⟩]⟩, ⟨"internal", []⟩] := by
  have formed : ∀ tag ∈ someTags, tag.WellFormed := by decide +kernel
  refine ⟨formed, (written_tags_read_back formed).trans ?_⟩
  simp [someTags, WrittenTag.docTag]

end StrategyDesk.Script
