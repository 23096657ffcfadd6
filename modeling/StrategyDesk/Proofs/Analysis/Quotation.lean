import StrategyDesk.Proofs.Analysis.Literal
import StrategyDesk.Proofs.Script.Chain

/-!
# What the findings quote

A finding about the meaning of a script names a module, an imported name or a property, and stands
exactly where the masked script has that name. The findings come in the order of the text, those
about the imports first, so no place is reported twice by one rule.
-/

set_option autoImplicit false

namespace StrategyDesk

open Script

theorem Script.Access.Stands.property_liesIn {masked front object property rest : Text}
    (stands : Access.Stands masked front object property rest) :
    Span.LiesIn ⟨front.length + object.length + 1, property⟩ 0 masked := by
  refine ⟨front ++ (object ++ ['.']), rest, ?_, ?_⟩
  · rw [stands.split]
    simp only [List.append_assoc, List.cons_append, List.nil_append]
  · simp only [List.length_append, List.length_singleton]
    omega

namespace Structural

/-- Whether a script has a span in it, with the text of the span when it is masked. -/
structure Quotes (script : Text) (span : Span) : Prop where
  inside : span.start + span.text.length ≤ script.length
  same : (mask script).slice span.start (span.start + span.text.length) = span.text

theorem quotes_of_liesIn {script : Text} {span : Span} (lies : span.LiesIn 0 (mask script)) :
    Quotes script span := by
  have bounds := lies.bounds
  rw [mask_length, Nat.zero_add] at bounds
  exact ⟨bounds.2, lies.slice_eq⟩

theorem study_findings (study : Study) :
    study.findings = study.resolution.findings ++
      (Access.placesIn study.masked).filterMap fun place =>
        accessFinding? study.resolution place.found := by
  rw [Study.findings, Access.all, ← map_places, List.filterMap_map]
  rfl

theorem mem_access_findings_iff {resolution : Resolution} {masked : Text} {finding : Finding} :
    (finding ∈ (Access.placesIn masked).filterMap fun place =>
        accessFinding? resolution place.found) ↔
      ∃ front object property rest, Access.Stands masked front object property rest ∧
        Access.placeAfter front object property ∈ Access.placesIn masked ∧
        LacksMember resolution object property ∧
        missingProperty (Access.placeAfter front object property).found = finding := by
  rw [List.mem_filterMap]
  constructor
  · rintro ⟨place, occurs, comes⟩
    obtain ⟨front, object, property, rest, stands, rfl⟩ := Access.exists_stands occurs
    exact ⟨front, object, property, rest, stands, occurs, accessFinding?_eq_some_iff.mp comes⟩
  · rintro ⟨front, object, property, rest, stands, occurs, comes⟩
    exact ⟨_, occurs, accessFinding?_eq_some_iff.mpr comes⟩

theorem access_findings_pairwise (resolution : Resolution) (masked : Text) :
    ((Access.placesIn masked).filterMap fun place =>
      accessFinding? resolution place.found).Pairwise
        fun first second => first.start < second.start := by
  have apart : (Access.placesIn masked).Pairwise fun first second => first.stop ≤ second.start :=
    occurrencesFrom_pairwise Access.read?_advances 0 0 none masked
  rw [List.pairwise_filterMap]
  refine apart.imp_of_mem ?_
  intro place place' occurs occurs' behind finding comes finding' comes'
  obtain ⟨_, rfl⟩ := accessFinding?_eq_some_iff.mp comes
  obtain ⟨_, rfl⟩ := accessFinding?_eq_some_iff.mp comes'
  obtain ⟨_, _, _, _, stands, rfl⟩ := Access.exists_stands occurs
  obtain ⟨_, _, _, _, stands', rfl⟩ := Access.exists_stands occurs'
  have filled := List.length_pos_iff.mpr stands.property_name.ne_nil
  simp only [Access.placeAfter, missingProperty, Finding.error] at behind ⊢
  omega

/-- The findings about the meaning of a script are those about its imports and then those about its
accesses, each in the order of the text. Every one lies in the script, and the masked script has
there exactly the name of the module, the imported name or the property that the message quotes. -/
theorem findings_quote_script {files : FileSystem} {path : String} {script : Text}
    (readable : files.read? path = some script) :
    ∃ imports accesses, service.semantic files path = imports ++ accesses ∧
      (∀ finding ∈ imports, ∃ quoted, Quotes script quoted ∧
        (finding = .error quoted.start quoted.text.length 2307
            s!"Cannot find module '{String.ofList quoted.text}'." ∨
          ∃ specifier, finding = .error quoted.start quoted.text.length 2305
            s!"Module '\"{String.ofList specifier}\"' has no exported member '{String.ofList quoted.text}'.")) ∧
      (∀ finding ∈ accesses, ∃ quoted object, Quotes script quoted ∧
        finding = .error quoted.start quoted.text.length 2339
          s!"Property '{String.ofList quoted.text}' does not exist on type 'typeof {String.ofList object}'.") ∧
      imports.Pairwise (fun first second => first.start < second.start) ∧
      accesses.Pairwise (fun first second => first.start < second.start) := by
  let resolution := Resolution.ofScript files (mask script)
  refine ⟨_, _, (semantic_eq readable).trans (study_findings _), ?_, ?_,
    Resolution.ofScript_pairwise files (mask script),
    access_findings_pairwise resolution (mask script)⟩
  · intro finding importing
    obtain ⟨quoted, about, lies⟩ := Resolution.ofScript_liesIn importing
    exact ⟨quoted, quotes_of_liesIn lies, about⟩
  · intro finding accessing
    obtain ⟨_, object, _, _, stands, _, _, rfl⟩ := mem_access_findings_iff.mp accessing
    exact ⟨_, object, quotes_of_liesIn stands.property_liesIn, rfl⟩

/-- Behind a comment with a letter of two bytes, a name that is renamed, a module and a property are
reported, each where it stands. -/
theorem findings_behind_comment :
    let script := "/*é*/import \x7bE, ñ as F\x7d from \"m\";import \"ü\";E.xé".toList
    let files := (enumFiles.write "/i" script).1
    let found := service.semantic files "/i"
    files.read? "/i" = some script ∧
      found.map (fun finding => (finding.code, finding.start, finding.length)) =
        [(2305, 16, 1), (2307, 41, 1), (2339, 46, 2)] ∧
      ∀ finding ∈ found, ∃ quoted, Quotes script quoted ∧
        finding.start = quoted.start ∧ finding.length = quoted.text.length := by
  intro script files found
  have readable : files.read? "/i" = some script := FileSystem.read?_write_self ..
  refine ⟨readable, by decide +kernel, ?_⟩
  obtain ⟨imports, accesses, split, importing, accessing, _, _⟩ := findings_quote_script readable
  intro finding reported
  rw [show found = imports ++ accesses from split] at reported
  rcases List.mem_append.mp reported with early | late
  · obtain ⟨quoted, quotes, rfl | ⟨specifier, rfl⟩⟩ := importing finding early
    · exact ⟨quoted, quotes, rfl, rfl⟩
    · exact ⟨quoted, quotes, rfl, rfl⟩
  · obtain ⟨quoted, object, quotes, rfl⟩ := accessing finding late
    exact ⟨quoted, quotes, rfl, rfl⟩

end Structural

end StrategyDesk
