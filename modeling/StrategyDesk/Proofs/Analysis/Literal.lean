import StrategyDesk.Analysis.Structural
import StrategyDesk.Proofs.Analysis.Import
import StrategyDesk.Proofs.Analysis.Sources

/-!
# What a literal adds to the findings

The findings about the imports of a script lie in its import statements, those about its accesses at
the properties. So what stands in a literal has a part in the findings only by the accesses there,
unless an import statement that is read meets the inside of the literal.
-/

set_option autoImplicit false

namespace StrategyDesk

open Script

structure LiteralFrame where
  before : List Lexeme
  quote : Char
  after : List Lexeme

namespace LiteralFrame

variable (frame : LiteralFrame)

def lexemes (body : Text) : List Lexeme :=
  frame.before ++ .literal frame.quote body :: frame.after

def script (body : Text) : Text := Lexeme.textOf (frame.lexemes body)

def start : Nat := (Lexeme.textOf frame.before).length + 1

/-- Whether no import statement that is read in the script meets the content of the literal. -/
def ClearOfImports (body : Text) : Prop :=
  ∀ place ∈ ImportStatement.placesIn (mask (frame.script body)),
    place.Avoids frame.start (frame.start + body.length)

instance (body : Text) : Decidable (frame.ClearOfImports body) :=
  inferInstanceAs (Decidable (∀ place ∈ _, _))

variable {frame}

theorem isQuote_of_readable {body : Text} (readable : Lexeme.Readable (frame.lexemes body)) :
    isQuote frame.quote = true := (Lexeme.stands_of_readable readable).1

theorem mask_script {body : Text} (readable : Lexeme.Readable (frame.lexemes body)) :
    mask (frame.script body) = Lexeme.maskedOf frame.before ++
      frame.quote :: (body ++ frame.quote :: Lexeme.maskedOf frame.after) := by
  rw [script, mask_textOf readable, lexemes, Lexeme.maskedOf_append, Lexeme.maskedOf_cons]
  simp only [Lexeme.masked, Lexeme.text, List.cons_append, List.append_assoc, List.nil_append]

theorem start_eq : frame.start = (Lexeme.maskedOf frame.before).length + 1 := by
  rw [start, Lexeme.maskedOf_length]

theorem imports_eq {body other : Text} (readable : Lexeme.Readable (frame.lexemes body))
    (inside : LiteralBody frame.quote other) (sameLength : other.length = body.length)
    (clear : frame.ClearOfImports body) (clear' : frame.ClearOfImports other) :
    ImportStatement.all (mask (frame.script other)) =
      ImportStatement.all (mask (frame.script body)) := by
  have readable' : Lexeme.Readable (frame.lexemes other) := Lexeme.readable_replace readable inside
  unfold ClearOfImports at clear clear'
  rw [mask_script readable, start_eq] at clear
  rw [mask_script readable', start_eq, sameLength] at clear'
  rw [mask_script readable, mask_script readable']
  exact ImportStatement.all_replace (isQuote_of_readable readable) sameLength clear clear'

end LiteralFrame

namespace Structural

/-- Whether the object is an imported enumeration that has no such member. -/
def LacksMember (resolution : Resolution) (object property : Text) : Prop :=
  ∃ binding, resolution.binding? object = some binding ∧ binding.declaration.isEnum = true ∧
    property ∉ binding.declaration.members

theorem accessFinding?_eq_some_iff {resolution : Resolution} {access : Access}
    {finding : Finding} :
    accessFinding? resolution access = some finding ↔
      LacksMember resolution access.object.text access.property.text ∧
        missingProperty access = finding := by
  simp only [accessFinding?, LacksMember, Option.bind_eq_bind, Option.bind_eq_some_iff,
    Option.ite_none_right_eq_some, Option.some.injEq]
  constructor
  · rintro ⟨binding, bound, lacking, same⟩
    exact ⟨⟨binding, bound, lacking⟩, same⟩
  · rintro ⟨⟨binding, bound, lacking⟩, same⟩
    exact ⟨binding, bound, lacking, same⟩

/-- The findings about the accesses in a text that begins at a position. -/
def accessFindings (resolution : Resolution) (position : Nat) (text : Text) : List Finding :=
  (Access.allFrom position text).filterMap (accessFinding? resolution)

theorem accessFindings_within {resolution : Resolution} {position : Nat} {text : Text}
    {finding : Finding} (reported : finding ∈ accessFindings resolution position text) :
    position ≤ finding.start ∧ finding.start < position + text.length := by
  obtain ⟨access, occurs, found⟩ := List.mem_filterMap.mp reported
  have place := Access.property_of_mem_allFrom occurs
  obtain ⟨_, rfl⟩ := accessFinding?_eq_some_iff.mp found
  simp only [missingProperty, Finding.error]
  omega

theorem findings_of_literal {frame : LiteralFrame} {body : Text}
    (readable : Lexeme.Readable (frame.lexemes body)) (resolution : Resolution) :
    (Study.mk (mask (frame.script body)) resolution).findings =
      resolution.findings ++ (accessFindings resolution 0 (Lexeme.maskedOf frame.before) ++
        (accessFindings resolution frame.start body ++
          accessFindings resolution (frame.start + body.length + 1)
            (Lexeme.maskedOf frame.after))) := by
  have quotes := LiteralFrame.isQuote_of_readable readable
  have accesses : Access.all (mask (frame.script body)) = _ :=
    Access.occurrencesFrom_anywhere 0 none _
  rw [LiteralFrame.mask_script readable, Access.allFrom_split quotes,
    Access.allFrom_split quotes, Nat.zero_add, ← LiteralFrame.start_eq] at accesses
  rw [Study.findings, LiteralFrame.mask_script readable, accesses, List.filterMap_append,
    List.filterMap_append]
  rfl

theorem semantic_eq {files : FileSystem} {path : String} {script : Text}
    (readable : files.read? path = some script) :
    service.semantic files path = (Study.ofScript files script).findings := by
  simp only [service, readable, Option.map_some, Option.getD_some]

def reported (files : FileSystem) (path : String) (script : Text) : List Finding :=
  service.semantic (files.write path script).1 path

/-- What the imports of a script come to after it was written to a file of a sandbox. -/
def resolved (files : FileSystem) (path : String) (script : Text) : Resolution :=
  .ofScript (files.write path script).1 (mask script)

theorem reported_eq (files : FileSystem) (path : String) (script : Text) :
    reported files path script =
      (Study.mk (mask script) (resolved files path script)).findings :=
  semantic_eq (FileSystem.read?_write_self files path script)

/-- Scripts whose imports are the same, and that say the same of the imported modules, come to the
same wherever they are written. -/
theorem resolved_congr {script other : Text}
    (imports : ImportStatement.all (mask other) = ImportStatement.all (mask script))
    (declared : ∀ statement ∈ ImportStatement.all (mask script),
      Module.search statement.specifier.text other =
        Module.search statement.specifier.text script)
    (files : FileSystem) (path : String) :
    resolved files path other = resolved files path script := by
  have parts : (ImportStatement.all (mask script)).map
        (Resolution.ofImport (files.write path other).1) =
      (ImportStatement.all (mask script)).map
        (Resolution.ofImport (files.write path script).1) := by
    refine List.map_congr_left ?_
    intro statement occurs
    have same := Module.find?_write_congr (declared statement occurs) files path
    simp only [Resolution.ofImport, same]
  rw [resolved, resolved, Resolution.ofScript, Resolution.ofScript, imports, parts]

/-- What stands in a literal takes part in what is reported of a script by its accesses alone, if it
is met by no import statement that is read and the script says the same of the imported modules. The
report is the same as with another content if and only if these findings are, and they are all that
is reported in the literal. -/
theorem literal_content_reported (files : FileSystem) (path : String) (frame : LiteralFrame)
    {body other : Text} (readable : Lexeme.Readable (frame.lexemes body))
    (inside : LiteralBody frame.quote other) (sameLength : other.length = body.length)
    (clear : frame.ClearOfImports body) (clear' : frame.ClearOfImports other)
    (declared : ∀ statement ∈ ImportStatement.all (mask (frame.script body)),
      Module.search statement.specifier.text (frame.script other) =
        Module.search statement.specifier.text (frame.script body)) :
    (reported files path (frame.script other) = reported files path (frame.script body) ↔
        accessFindings (resolved files path (frame.script body)) frame.start other =
          accessFindings (resolved files path (frame.script body)) frame.start body) ∧
      ∀ finding, (finding ∈ reported files path (frame.script body) ∧
          frame.start ≤ finding.start ∧ finding.start < frame.start + body.length) ↔
        finding ∈ accessFindings (resolved files path (frame.script body)) frame.start body := by
  have readable' : Lexeme.Readable (frame.lexemes other) := Lexeme.readable_replace readable inside
  have imports := LiteralFrame.imports_eq readable inside sameLength clear clear'
  have resolution := resolved_congr imports declared files path
  rw [reported_eq, reported_eq, resolution, findings_of_literal readable,
    findings_of_literal readable', sameLength]
  constructor
  · constructor
    · intro same
      exact List.append_cancel_right (List.append_cancel_left (List.append_cancel_left same))
    · intro same
      rw [same]
  · intro finding
    constructor
    · rintro ⟨occurs, from_start, to_stop⟩
      rcases List.mem_append.mp occurs with importing | occurs
      · obtain ⟨place, read, within⟩ := Resolution.ofScript_within importing
        rcases clear place read with early | late
        · omega
        · omega
      rcases List.mem_append.mp occurs with early | occurs
      · have within := accessFindings_within early
        rw [LiteralFrame.start_eq] at from_start
        omega
      rcases List.mem_append.mp occurs with here | late
      · exact here
      · have within := accessFindings_within late
        omega
    · intro occurs
      refine ⟨?_, accessFindings_within occurs⟩
      exact List.mem_append_right _ (List.mem_append_right _ (List.mem_append_left _ occurs))

def enumFiles : FileSystem :=
  ((FileSystem.onSnapshot .empty).write "/m" "declare module \"m\" \x7benum E \x7bA\x7d\x7d".toList).1

def enumFrame : LiteralFrame :=
  ⟨"import \x7bE\x7d from ".toList.map .other ++ [.literal '"' ['m'], .other ';'], '\'', []⟩

/-- In `import {E} from "m";'E.x'` the literal is reported, and with another content it is not. -/
theorem property_in_literal_reported :
    Lexeme.Readable (enumFrame.lexemes ['E', '.', 'x']) ∧ LiteralBody '\'' ['E', '.', 'A'] ∧
      enumFrame.ClearOfImports ['E', '.', 'x'] ∧ enumFrame.ClearOfImports ['E', '.', 'A'] ∧
      reported enumFiles "/i" (enumFrame.script ['E', '.', 'A']) ≠
        reported enumFiles "/i" (enumFrame.script ['E', '.', 'x']) := by
  have named : LiteralBody '"' ['m'] := literalBody_of_plain (by simp)
  have missing : LiteralBody '\'' ['E', '.', 'x'] := literalBody_of_plain (by simp)
  have present : LiteralBody '\'' ['E', '.', 'A'] := literalBody_of_plain (by simp)
  have readable : Lexeme.Readable (enumFrame.lexemes ['E', '.', 'x']) := by
    unfold LiteralFrame.lexemes enumFrame
    rw [List.append_assoc]
    refine Lexeme.readable_others (by decide +kernel)
      ⟨⟨rfl, named⟩, ⟨rfl, ?_⟩, ⟨rfl, missing⟩, trivial⟩
    intro slash
    exact absurd slash (by decide)
  have clear : enumFrame.ClearOfImports ['E', '.', 'x'] := by decide +kernel
  have clear' : enumFrame.ClearOfImports ['E', '.', 'A'] := by decide +kernel
  have imports : (ImportStatement.all (mask (enumFrame.script ['E', '.', 'x']))).map
      (fun statement => statement.specifier.text) = [['m']] := by decide +kernel
  have declared : ∀ statement ∈ ImportStatement.all (mask (enumFrame.script ['E', '.', 'x'])),
      Module.search statement.specifier.text (enumFrame.script ['E', '.', 'A']) =
        Module.search statement.specifier.text (enumFrame.script ['E', '.', 'x']) := by
    intro statement occurs
    have imported := List.mem_map_of_mem (f := fun statement => statement.specifier.text) occurs
    rw [imports, List.mem_singleton] at imported
    rw [imported]
    rfl
  refine ⟨readable, present, clear, clear', ?_⟩
  intro same
  have found := (literal_content_reported enumFiles "/i" enumFrame readable present rfl clear
    clear' declared).1.mp same
  have lengths :
      (accessFindings (resolved enumFiles "/i" (enumFrame.script ['E', '.', 'x']))
          enumFrame.start ['E', '.', 'A']).length ≠
        (accessFindings (resolved enumFiles "/i" (enumFrame.script ['E', '.', 'x']))
          enumFrame.start ['E', '.', 'x']).length := by
    decide +kernel
  exact lengths (congrArg List.length found)

end Structural

end StrategyDesk
