import StrategyDesk.Proofs.Analysis.Access

/-!
# What an imported name comes to

No two pieces of the imports of a script meet. So what is said about an imported name is said at its
place by nothing else: the name is bound to what the module declares by it, and nothing is reported
there, or it is reported there once.
-/

set_option autoImplicit false

namespace StrategyDesk

open Script

theorem eq_of_pairwise_apart {α : Type} {start stop : α → Nat} {list : List α}
    (apart : list.Pairwise fun a b => stop a ≤ start b) {a b : α} (inside : a ∈ list)
    (inside' : b ∈ list) {position : Nat} (from_a : start a ≤ position) (to_a : position < stop a)
    (from_b : start b ≤ position) (to_b : position < stop b) : a = b := by
  induction list with
  | nil => cases inside
  | cons c list ih =>
      obtain ⟨behind, later⟩ := List.pairwise_cons.mp apart
      rcases List.mem_cons.mp inside with rfl | further
      · rcases List.mem_cons.mp inside' with rfl | further'
        · rfl
        · have after := behind b further'
          omega
      · rcases List.mem_cons.mp inside' with rfl | further'
        · have after := behind a further
          omega
        · exact ih later further further'

theorem filter_start_eq_singleton {findings : List Finding}
    (ordered : findings.Pairwise fun first second => first.start < second.start)
    {finding : Finding} (inside : finding ∈ findings) :
    (findings.filter fun other => other.start == finding.start) = [finding] := by
  induction findings with
  | nil => cases inside
  | cons first findings ih =>
      obtain ⟨behind, later⟩ := List.pairwise_cons.mp ordered
      rcases List.mem_cons.mp inside with rfl | further
      · rw [List.filter_cons, if_pos (beq_self_eq_true finding.start), List.filter_eq_nil_iff.mpr]
        intro other held same
        have after := behind other held
        have place := beq_iff_eq.mp same
        omega
      · have apart : ¬ (first.start == finding.start) = true := by
          intro same
          have after := behind finding further
          have place := beq_iff_eq.mp same
          omega
        rw [List.filter_cons, if_neg apart, ih later further]

namespace Resolution

/-- A piece of the list of names in an import statement of a masked script. -/
structure PieceOf (masked : Text) (place : Placed ImportStatement) (piece : Span) : Prop where
  occurs : place ∈ ImportStatement.placesIn masked
  listed : ∃ names, place.found.names = some names ∧
    piece ∈ placePieces names.start (names.text.splitOn ',')
  filled : Text.trim piece.text ≠ []

namespace PieceOf

variable {masked : Text} {place : Placed ImportStatement} {piece : Span}

theorem within (of : PieceOf masked place piece) :
    place.start ≤ (exportedName piece).start ∧ (exportedName piece).start < place.stop := by
  obtain ⟨names, named, placed⟩ := of.listed
  obtain ⟨front, taken, rest, _, form, start, stop⟩ := ImportStatement.mem_placesIn of.occurs
  obtain ⟨some_name, inPiece⟩ := exportedName_liesIn of.filled
  have inNames := placePieces_liesIn placed
  rw [List.intercalate_splitOn] at inNames
  have bounds := ((inPiece.trans inNames).trans (form.names_liesIn named)).bounds
  have length := List.length_pos_iff.mpr some_name
  omega

theorem place_eq (of : PieceOf masked place piece) {other : Placed ImportStatement}
    (occurs : other ∈ ImportStatement.placesIn masked)
    (from_there : other.start ≤ (exportedName piece).start)
    (to_there : (exportedName piece).start < other.stop) : other = place := by
  have apart : (ImportStatement.placesIn masked).Pairwise
      fun first second => first.stop ≤ second.start :=
    occurrencesFrom_pairwise ImportStatement.read?_selfContained.advances 0 0 none masked
  exact eq_of_pairwise_apart apart occurs of.occurs from_there to_there of.within.1 of.within.2

theorem piece_eq (of : PieceOf masked place piece) {other : Span}
    (of' : PieceOf masked place other)
    (same : (exportedName other).start = (exportedName piece).start) : other = piece := by
  obtain ⟨names, named, placed⟩ := of.listed
  obtain ⟨names', named', placed'⟩ := of'.listed
  rw [named] at named'
  cases named'
  have apart : (placePieces names.start (names.text.splitOn ',')).Pairwise
      fun first second => first.start + first.text.length + 1 ≤ second.start :=
    placePieces_pairwise _ _
  have bounds := (exportedName_liesIn of.filled).2.bounds
  have bounds' := (exportedName_liesIn of'.filled).2.bounds
  have at_place : (exportedName piece).start < piece.start + piece.text.length + 1 := by omega
  have at_place' : (exportedName piece).start < other.start + other.text.length + 1 := by omega
  exact eq_of_pairwise_apart apart placed' placed (same ▸ bounds'.1) at_place' bounds.1 at_place

end PieceOf

theorem ofScript_bindings (files : FileSystem) (masked : Text) :
    (ofScript files masked).bindings =
      (ImportStatement.placesIn masked).flatMap fun place =>
        (ofImport files place.found).bindings := by
  rw [ofScript, ImportStatement.all, ← map_places]
  simp only [List.map_map, List.flatMap_map]
  rfl

variable {files : FileSystem} {masked : Text} {place : Placed ImportStatement} {piece : Span}
  {module : Module}

theorem PieceOf.ofImport_eq (of : PieceOf masked place piece)
    (found : Module.find? files place.found.specifier.text = some module) :
    ∃ results : List (Binding ⊕ Finding), ofImport files place.found =
        ⟨results.filterMap Sum.getLeft?, [module], results.filterMap Sum.getRight?⟩ ∧
      ∀ result, resolvePiece module place.found.specifier.text piece = some result →
        result ∈ results := by
  obtain ⟨names, named, placed⟩ := of.listed
  refine ⟨_, ?_, fun result comes => List.mem_filterMap.mpr ⟨piece, placed, comes⟩⟩
  simp only [ofImport, found, named]

theorem PieceOf.mem_bindings (of : PieceOf masked place piece)
    (found : Module.find? files place.found.specifier.text = some module) {binding : Binding}
    (comes : resolvePiece module place.found.specifier.text piece = some (.inl binding)) :
    binding ∈ (ofScript files masked).bindings := by
  obtain ⟨results, part, held⟩ := of.ofImport_eq found
  rw [ofScript_bindings, List.mem_flatMap]
  refine ⟨place, of.occurs, ?_⟩
  rw [part]
  exact List.mem_filterMap.mpr ⟨_, held _ comes, rfl⟩

theorem PieceOf.mem_findings (of : PieceOf masked place piece)
    (found : Module.find? files place.found.specifier.text = some module) {finding : Finding}
    (comes : resolvePiece module place.found.specifier.text piece = some (.inr finding)) :
    finding ∈ (ofScript files masked).findings := by
  obtain ⟨results, part, held⟩ := of.ofImport_eq found
  rw [ofScript_findings, List.mem_flatMap]
  refine ⟨place, of.occurs, ?_⟩
  rw [part]
  exact List.mem_filterMap.mpr ⟨_, held _ comes, rfl⟩

/-- A finding about the imports that begins where a piece has its exported name is about the
piece. -/
theorem PieceOf.comes_to (of : PieceOf masked place piece)
    (found : Module.find? files place.found.specifier.text = some module) {finding : Finding}
    (reported : finding ∈ (ofScript files masked).findings)
    (here : finding.start = (exportedName piece).start) :
    resolvePiece module place.found.specifier.text piece = some (.inr finding) := by
  rw [ofScript_findings, List.mem_flatMap] at reported
  obtain ⟨other, occurs, reported⟩ := reported
  have around := (findings_liesIn occurs reported).2
  rw [here] at around
  obtain rfl := of.place_eq occurs around.1 around.2
  rcases ofImport_findings files other.found with ⟨missing, _⟩ | ⟨module', found', findings⟩
  · rw [found] at missing
    cases missing
  rw [found] at found'
  cases found'
  rw [findings, List.mem_filterMap] at reported
  obtain ⟨piece', placed, comes⟩ := reported
  obtain ⟨result, resolved, right⟩ := Option.bind_eq_some_iff.mp comes
  obtain rfl := Sum.getRight?_eq_some_iff.mp right
  obtain ⟨filled, rfl⟩ := resolvePiece_reports resolved
  cases named : other.found.names with
  | none =>
      rw [named] at placed
      cases placed
  | some names =>
      rw [named] at placed
      obtain rfl := of.piece_eq ⟨occurs, ⟨names, named, placed⟩, filled⟩ here
      exact resolved

/-- An imported name that the module does not declare is reported once at its place, and nothing
else is reported there. -/
theorem PieceOf.findings_at (of : PieceOf masked place piece)
    (found : Module.find? files place.found.specifier.text = some module) :
    ((ofScript files masked).findings.filter fun finding =>
        finding.start == (exportedName piece).start) =
      if (module.declaration? (exportedName piece).text).isSome then []
      else [missingExport (exportedName piece).start place.found.specifier.text
        (exportedName piece).text] := by
  have resolved := @resolvePiece_eq module place.found.specifier.text piece of.filled
  cases declared : module.declaration? (exportedName piece).text with
  | some declaration =>
      rw [declared] at resolved
      rw [Option.isSome_some, if_pos rfl, List.filter_eq_nil_iff]
      intro finding reported here
      have comes := of.comes_to found reported (beq_iff_eq.mp here)
      rw [resolved] at comes
      cases comes
  | none =>
      rw [declared] at resolved
      exact filter_start_eq_singleton (ofScript_pairwise files masked)
        (of.mem_findings found resolved)

end Resolution

namespace Structural

/-- What is reported of an imported name by the number for names that a module does not export. -/
theorem missing_exports_at {files : FileSystem} {path : String} {script : Text}
    (readable : files.read? path = some script) {place : Placed ImportStatement} {piece : Span}
    (of : Resolution.PieceOf (mask script) place piece) {module : Module}
    (found : Module.find? files place.found.specifier.text = some module) :
    ((service.semantic files path).filter fun finding =>
        finding.code == 2305 && finding.start == (Resolution.exportedName piece).start) =
      if (module.declaration? (Resolution.exportedName piece).text).isSome then []
      else [Resolution.missingExport (Resolution.exportedName piece).start
        place.found.specifier.text (Resolution.exportedName piece).text] := by
  have accesses : ((Access.placesIn (mask script)).filterMap fun place =>
      accessFinding? (Resolution.ofScript files (mask script)) place.found).filter
        (fun finding => finding.code == 2305 &&
          finding.start == (Resolution.exportedName piece).start) = [] := by
    rw [List.filter_eq_nil_iff]
    intro finding accessing
    obtain ⟨_, _, _, _, _, _, _, rfl⟩ := mem_access_findings_iff.mp accessing
    simp [missingProperty, Finding.error]
  rw [semantic_eq readable, study_findings, List.filter_append]
  refine (congrArg _ accesses).trans ?_
  rw [List.append_nil, ← List.filter_filter]
  refine (congrArg _ (of.findings_at found)).trans ?_
  split <;> rfl

end Structural

end StrategyDesk
