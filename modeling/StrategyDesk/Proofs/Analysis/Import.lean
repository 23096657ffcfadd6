import StrategyDesk.Analysis.Resolution
import StrategyDesk.Proofs.Script.Literal
import StrategyDesk.Proofs.Script.Piece

/-!
# What is reported of an import

An import of a module that is not found is reported at the name of the module. Otherwise each
imported name that the module does not declare is reported where it stands. Either way the finding
is about a piece of the import statement, which it quotes.
-/

set_option autoImplicit false

namespace StrategyDesk

open Script

namespace Script

theorem IsClause.names_liesIn {position : Nat} {clause : Text} {names : Span}
    (form : IsClause position clause (some names)) : names.LiesIn position clause := by
  cases form with
  | named unclosed leads trails => exact ⟨['\x7b'], _, rfl, rfl⟩

theorem IsImport.specifier_liesIn {position : Nat} {taken : Text} {statement : ImportStatement}
    (form : IsImport position taken statement) :
    statement.specifier.text ≠ [] ∧ statement.specifier.LiesIn position taken := by
  cases form with
  | @mk lead clause name names first last apart form opens filled unquoted closes =>
      refine ⟨filled, "import".toList ++ (lead ++ (clause ++ [first])), [last], ?_, ?_⟩
      · simp only [List.append_assoc, List.cons_append, List.nil_append]
      · simp only [List.length_append, List.length_cons, List.length_nil]
        omega

theorem IsImport.names_liesIn {position : Nat} {taken : Text} {statement : ImportStatement}
    (form : IsImport position taken statement) {names : Span}
    (named : statement.names = some names) : names.LiesIn position taken := by
  cases form with
  | @mk lead clause name listed first last apart form opens filled unquoted closes =>
      cases named
      have front : position + "import".toList.length + lead.length =
          position + ("import".toList ++ lead).length := by
        rw [List.length_append, Nat.add_assoc]
      have inClause := form.names_liesIn
      rw [front] at inClause
      rw [← List.append_assoc]
      have inTaken := Span.LiesIn.between position ("import".toList ++ lead) clause
        (first :: (name ++ [last]))
      exact inClause.trans inTaken

theorem ImportStatement.mem_placesIn {masked : Text} {place : Placed ImportStatement}
    (occurs : place ∈ ImportStatement.placesIn masked) :
    ∃ front taken rest, masked = front ++ (taken ++ rest) ∧
      IsImport place.start taken place.found ∧ place.start = front.length ∧
      place.stop = place.start + taken.length := by
  obtain ⟨front, _, after, rfl, read⟩ := exists_of_mem_occurrencesFrom occurs
  obtain ⟨reads, start, stop⟩ := placed_eq_some_iff.mp read
  obtain ⟨taken, form, rfl, length⟩ := ImportStatement.read?_sound reads
  rw [← start] at form length
  exact ⟨front, taken, after.rest, rfl, form, by omega, by omega⟩

end Script

namespace Resolution

/-! ## Pieces of a list of names -/

theorem placePieces_liesIn {start : Nat} {pieces : List Text} {piece : Span}
    (placed : piece ∈ placePieces start pieces) :
    piece.LiesIn start ([','].intercalate pieces) := by
  induction pieces generalizing start with
  | nil => cases placed
  | cons first rest ih =>
      cases rest with
      | nil =>
          obtain rfl := List.mem_singleton.mp placed
          exact ⟨[], [], by simp, rfl⟩
      | cons second rest =>
          rw [List.intercalate_cons_of_ne_nil (List.cons_ne_nil second rest)]
          rcases List.mem_cons.mp placed with rfl | later
          · exact ⟨[], _, List.append_assoc _ _ _, rfl⟩
          · have front : start + first.length + 1 = start + (first ++ [',']).length := by
              rw [List.length_append, List.length_singleton, Nat.add_assoc]
            have onward := ih later
            rw [front] at onward
            have whole := Span.LiesIn.between start (first ++ [','])
              ([','].intercalate (second :: rest)) []
            rw [List.append_nil] at whole
            exact onward.trans whole

theorem placePieces_pairwise (start : Nat) (pieces : List Text) :
    (placePieces start pieces).Pairwise fun first second =>
      first.start + first.text.length < second.start := by
  induction pieces generalizing start with
  | nil => exact List.Pairwise.nil
  | cons first rest ih =>
      refine List.pairwise_cons.mpr ⟨?_, ih _⟩
      intro piece later
      have bounds := (placePieces_liesIn later).bounds
      dsimp only
      omega

/-- The exported name in a piece of an import list, where it stands. -/
def exportedName (piece : Span) : Span :=
  ⟨piece.start + (piece.text.takeWhile Text.isBlank).length,
    (importedName (Text.trim piece.text)).1⟩

theorem importedName_cons {c : Char} (solid : Text.isBlank c = false) (rest : Text) :
    (importedName (c :: rest)).1 ≠ [] ∧ (importedName (c :: rest)).1 <+: c :: rest := by
  unfold importedName
  split
  next exported bound cut =>
    have split := Text.cutAt?_sound cut
    cases exported with
    | nil =>
        cases split
        exact absurd solid (by decide)
    | cons d exported =>
        obtain ⟨rfl, rfl⟩ := List.cons.inj split
        obtain ⟨kept, trimmed, front⟩ := Text.trim_cons solid exported
        dsimp only
        rw [trimmed]
        refine ⟨List.cons_ne_nil c kept, ?_⟩
        exact (List.prefix_cons_inj c).mpr (front.trans (List.prefix_append _ _))
  next => exact ⟨List.cons_ne_nil c rest, List.prefix_refl _⟩

theorem exportedName_liesIn {piece : Span} (filled : Text.trim piece.text ≠ []) :
    (exportedName piece).text ≠ [] ∧ (exportedName piece).LiesIn piece.start piece.text := by
  obtain ⟨c, kept, rest, solid, trimmed, split⟩ := Text.exists_trimmed filled
  obtain ⟨some_name, after, front⟩ := importedName_cons solid kept
  refine ⟨?_, piece.text.takeWhile Text.isBlank, after ++ rest, ?_, rfl⟩
  · rw [exportedName, trimmed]
    exact some_name
  · have exported : (exportedName piece).text ++ (after ++ rest) = c :: (kept ++ rest) := by
      rw [exportedName, trimmed, ← List.append_assoc, front, List.cons_append]
    rw [exported]
    exact split

theorem resolvePiece_eq {module : Module} {specifier : Text} {piece : Span}
    (filled : Text.trim piece.text ≠ []) :
    resolvePiece module specifier piece = some
      (match module.declaration? (exportedName piece).text with
        | some declaration =>
            .inl ⟨(importedName (Text.trim piece.text)).2, module, declaration⟩
        | none =>
            .inr (missingExport (exportedName piece).start specifier (exportedName piece).text)) := by
  rw [resolvePiece]
  simp only [if_neg filled, exportedName]
  cases module.declaration? (importedName (Text.trim piece.text)).1 <;> rfl

theorem filled_of_resolvePiece {module : Module} {specifier : Text} {piece : Span}
    {result : Binding ⊕ Finding} (comes : resolvePiece module specifier piece = some result) :
    Text.trim piece.text ≠ [] := by
  intro blank
  rw [resolvePiece] at comes
  simp only [if_pos blank] at comes
  cases comes

theorem resolvePiece_reports {module : Module} {specifier : Text} {piece : Span}
    {finding : Finding} (comes : resolvePiece module specifier piece = some (.inr finding)) :
    Text.trim piece.text ≠ [] ∧
      finding = missingExport (exportedName piece).start specifier (exportedName piece).text := by
  have filled := filled_of_resolvePiece comes
  rw [resolvePiece_eq filled] at comes
  split at comes <;> cases comes
  exact ⟨filled, rfl⟩

theorem resolvePiece_binds {module : Module} {specifier : Text} {piece : Span} {binding : Binding}
    (comes : resolvePiece module specifier piece = some (.inl binding)) :
    Text.trim piece.text ≠ [] ∧ binding.name = (importedName (Text.trim piece.text)).2 := by
  have filled := filled_of_resolvePiece comes
  rw [resolvePiece_eq filled] at comes
  split at comes <;> cases comes
  exact ⟨filled, rfl⟩

/-! ## The findings about one import -/

theorem ofImport_findings (files : FileSystem) (statement : ImportStatement) :
    (Module.find? files statement.specifier.text = none ∧
        (ofImport files statement).findings = [missingModule statement.specifier]) ∨
      ∃ module, Module.find? files statement.specifier.text = some module ∧
        (ofImport files statement).findings =
          ((statement.names.map fun names =>
            placePieces names.start (names.text.splitOn ',')).getD []).filterMap fun piece =>
              (resolvePiece module statement.specifier.text piece).bind Sum.getRight? := by
  unfold ofImport
  cases resolved : Module.find? files statement.specifier.text with
  | none => exact Or.inl ⟨rfl, rfl⟩
  | some module =>
      refine Or.inr ⟨module, rfl, ?_⟩
      cases statement.names with
      | none => rfl
      | some names => exact List.filterMap_filterMap ..

theorem ofImport_reports {files : FileSystem} {statement : ImportStatement} {finding : Finding}
    (reported : finding ∈ (ofImport files statement).findings) :
    Module.find? files statement.specifier.text = none ∧
        finding = missingModule statement.specifier ∨
      ∃ names piece, statement.names = some names ∧
        piece ∈ placePieces names.start (names.text.splitOn ',') ∧ Text.trim piece.text ≠ [] ∧
        finding = missingExport (exportedName piece).start statement.specifier.text
          (exportedName piece).text := by
  rcases ofImport_findings files statement with ⟨missing, findings⟩ | ⟨module, found, findings⟩
  · rw [findings, List.mem_singleton] at reported
    exact Or.inl ⟨missing, reported⟩
  · rw [findings, List.mem_filterMap] at reported
    obtain ⟨piece, placed, comes⟩ := reported
    obtain ⟨result, resolved, right⟩ := Option.bind_eq_some_iff.mp comes
    obtain rfl := Sum.getRight?_eq_some_iff.mp right
    obtain ⟨filled, same⟩ := resolvePiece_reports resolved
    cases named : statement.names with
    | none =>
        rw [named] at placed
        cases placed
    | some names =>
        rw [named] at placed
        exact Or.inr ⟨names, piece, rfl, placed, filled, same⟩

theorem missing_reported_iff (files : FileSystem) (statement : ImportStatement) :
    (∃ finding ∈ (ofImport files statement).findings, finding.code = 2307) ↔
      Module.find? files statement.specifier.text = none := by
  constructor
  · rintro ⟨finding, reported, missing⟩
    rcases ofImport_reports reported with ⟨none_found, _⟩ | ⟨_, _, _, _, _, _, rfl⟩
    · exact none_found
    · cases missing
  · intro none_found
    refine ⟨missingModule statement.specifier, ?_, rfl⟩
    rw [ofImport, none_found]
    exact List.mem_singleton_self _

/-! ## Where the findings are -/

/-- Whether a finding says that a name in an import is not found, at the span of the name. -/
def ImportFinding (finding : Finding) (quoted : Span) : Prop :=
  finding = missingModule quoted ∨
    ∃ specifier, finding = missingExport quoted.start specifier quoted.text

theorem ImportFinding.start_eq {finding : Finding} {quoted : Span}
    (about : ImportFinding finding quoted) : finding.start = quoted.start := by
  rcases about with rfl | ⟨specifier, rfl⟩
  · rfl
  · rfl

theorem ofImport_liesIn {files : FileSystem} {position : Nat} {taken : Text}
    {statement : ImportStatement} (form : IsImport position taken statement) {finding : Finding}
    (reported : finding ∈ (ofImport files statement).findings) :
    ∃ quoted, ImportFinding finding quoted ∧ quoted.text ≠ [] ∧ quoted.LiesIn position taken := by
  rcases ofImport_reports reported with
    ⟨_, rfl⟩ | ⟨names, piece, named, placed, filled, rfl⟩
  · exact ⟨statement.specifier, Or.inl rfl, form.specifier_liesIn⟩
  · obtain ⟨some_name, inPiece⟩ := exportedName_liesIn filled
    have inNames := placePieces_liesIn placed
    rw [List.intercalate_splitOn] at inNames
    refine ⟨exportedName piece, Or.inr ⟨_, rfl⟩, some_name, ?_⟩
    exact (inPiece.trans inNames).trans (form.names_liesIn named)

theorem ofImport_pairwise (files : FileSystem) (statement : ImportStatement) :
    (ofImport files statement).findings.Pairwise
      fun first second => first.start < second.start := by
  rcases ofImport_findings files statement with ⟨_, findings⟩ | ⟨module, _, findings⟩
  · rw [findings]
    exact List.pairwise_singleton _ _
  · -- Each piece comes to one finding at most, which is in the piece.
    have inPiece {piece : Span} {finding : Finding}
        (comes : (resolvePiece module statement.specifier.text piece).bind Sum.getRight? =
          some finding) :
        piece.start ≤ finding.start ∧ finding.start ≤ piece.start + piece.text.length := by
      obtain ⟨result, resolved, right⟩ := Option.bind_eq_some_iff.mp comes
      obtain rfl := Sum.getRight?_eq_some_iff.mp right
      obtain ⟨filled, rfl⟩ := resolvePiece_reports resolved
      have bounds := (exportedName_liesIn filled).2.bounds
      simp only [missingExport, Finding.error]
      omega
    rw [findings]
    cases statement.names with
    | none => exact List.Pairwise.nil
    | some names =>
        refine (placePieces_pairwise _ _).filterMap _ ?_
        intro piece piece' apart finding comes finding' comes'
        have here := inPiece comes
        have there := inPiece comes'
        omega

/-! ## The findings about a script -/

theorem ofScript_findings (files : FileSystem) (masked : Text) :
    (ofScript files masked).findings =
      (ImportStatement.placesIn masked).flatMap fun place =>
        (ofImport files place.found).findings := by
  rw [ofScript, ImportStatement.all, ← map_places]
  simp only [List.map_map, List.flatMap_map]
  rfl

theorem findings_liesIn {files : FileSystem} {masked : Text} {place : Placed ImportStatement}
    (occurs : place ∈ ImportStatement.placesIn masked) {finding : Finding}
    (reported : finding ∈ (ofImport files place.found).findings) :
    (∃ quoted, ImportFinding finding quoted ∧ quoted.LiesIn 0 masked) ∧
      place.start ≤ finding.start ∧ finding.start < place.stop := by
  obtain ⟨front, taken, rest, rfl, form, start, stop⟩ := ImportStatement.mem_placesIn occurs
  obtain ⟨quoted, about, filled, inTaken⟩ := ofImport_liesIn form reported
  have bounds := inTaken.bounds
  have length := List.length_pos_iff.mpr filled
  have whole : Span.LiesIn ⟨place.start, taken⟩ 0 (front ++ (taken ++ rest)) :=
    ⟨front, rest, rfl, by dsimp only; omega⟩
  rw [about.start_eq]
  exact ⟨⟨quoted, about, inTaken.trans whole⟩, by omega, by omega⟩

theorem ofScript_within {files : FileSystem} {masked : Text} {finding : Finding}
    (reported : finding ∈ (ofScript files masked).findings) :
    ∃ place ∈ ImportStatement.placesIn masked,
      place.start ≤ finding.start ∧ finding.start < place.stop := by
  rw [ofScript_findings, List.mem_flatMap] at reported
  obtain ⟨place, occurs, reported⟩ := reported
  exact ⟨place, occurs, (findings_liesIn occurs reported).2⟩

theorem ofScript_liesIn {files : FileSystem} {masked : Text} {finding : Finding}
    (reported : finding ∈ (ofScript files masked).findings) :
    ∃ quoted, ImportFinding finding quoted ∧ quoted.LiesIn 0 masked := by
  rw [ofScript_findings, List.mem_flatMap] at reported
  obtain ⟨place, occurs, reported⟩ := reported
  exact (findings_liesIn occurs reported).1

theorem ofScript_pairwise (files : FileSystem) (masked : Text) :
    (ofScript files masked).findings.Pairwise fun first second => first.start < second.start := by
  rw [ofScript_findings, List.pairwise_flatMap]
  refine ⟨fun place _ => ofImport_pairwise files place.found, ?_⟩
  have apart : (ImportStatement.placesIn masked).Pairwise
      fun first second => first.stop ≤ second.start :=
    occurrencesFrom_pairwise ImportStatement.read?_selfContained.advances 0 0 none masked
  refine apart.imp_of_mem ?_
  intro place place' occurs occurs' behind finding reported finding' reported'
  have early := (findings_liesIn occurs reported).2
  have late := (findings_liesIn occurs' reported').2
  omega

end Resolution

end StrategyDesk
