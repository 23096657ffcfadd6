import StrategyDesk.Proofs.Analysis.Quotation

/-!
# Which missing members are reported

A member that an imported enumeration lacks is reported where the search for accesses finds it. In a
chain of names that is so at every other name: what is reported of `E.B` changes with the number of
names before it.
-/

set_option autoImplicit false

namespace StrategyDesk.Structural

open Script

theorem code_of_mem_imports {files : FileSystem} {masked : Text} {finding : Finding}
    (importing : finding ∈ (Resolution.ofScript files masked).findings) : finding.code ≠ 2339 := by
  obtain ⟨quoted, rfl | ⟨specifier, rfl⟩, _⟩ := Resolution.ofScript_liesIn importing
  · simp [Resolution.missingModule, Finding.error]
  · simp [Resolution.missingExport, Finding.error]

theorem filter_missing_members {files : FileSystem} {path : String} {script : Text}
    (readable : files.read? path = some script) :
    ((service.semantic files path).filter fun finding => finding.code == 2339) =
      (Access.placesIn (mask script)).filterMap fun place =>
        accessFinding? (Resolution.ofScript files (mask script)) place.found := by
  rw [semantic_eq readable, study_findings, List.filter_append, List.filter_eq_nil_iff.mpr,
    List.filter_eq_self.mpr, List.nil_append]
  · rfl
  · intro finding accessing
    obtain ⟨_, _, _, _, _, _, _, rfl⟩ := mem_access_findings_iff.mp accessing
    rfl
  · intro finding importing
    simpa using code_of_mem_imports importing

/-- A missing member of an imported enumeration is reported, once and in the order of the text, if
and only if an even number of names stands before its object in their chain, the object not being
the end of a longer name. So it is reported where no point stands before the object, or those of a
spread. -/
theorem missing_member_reported_iff {files : FileSystem} {path : String} {script : Text}
    (readable : files.read? path = some script) :
    let resolution := Resolution.ofScript files (mask script)
    let found := (service.semantic files path).filter fun finding => finding.code == 2339
    found.Pairwise (fun first second => first.start < second.start) ∧
      (∀ finding, finding ∈ found ↔ ∃ front object property rest links,
        Access.Stands (mask script) front object property rest ∧
        LacksMember resolution object property ∧ ¬ EndsInName front ∧
        EndsInChain links front ∧ ¬ EndsInChain (links + 1) front ∧ Even links ∧
        finding = .error (front.length + object.length + 1) property.length 2339
          s!"Property '{String.ofList property}' does not exist on type 'typeof {String.ofList object}'.") ∧
      ∀ front object property rest, Access.Stands (mask script) front object property rest →
        LacksMember resolution object property → ¬ EndsInName front →
        (front.getLast? ≠ some '.' ∨ ['.', '.', '.'] <:+ front) →
          ∃ finding ∈ found, finding.start = front.length + object.length + 1 ∧
            finding.length = property.length := by
  intro resolution found
  have accesses : found = _ := filter_missing_members readable
  rw [accesses]
  refine ⟨access_findings_pairwise _ _, ?_, ?_⟩
  · intro finding
    rw [mem_access_findings_iff]
    constructor
    · rintro ⟨front, object, property, rest, stands, occurs, lacking, rfl⟩
      have whole := (stands.found_iff.mp occurs).1
      obtain ⟨links, chain, longest⟩ := exists_longest_chain front
      have even := (stands.found_iff_even whole chain longest).mp occurs
      exact ⟨front, object, property, rest, links, stands, lacking, whole, chain, longest, even, rfl⟩
    · rintro ⟨front, object, property, rest, links, stands, lacking, whole, chain, longest, even, rfl⟩
      have occurs := (stands.found_iff_even whole chain longest).mpr even
      exact ⟨front, object, property, rest, stands, occurs, lacking, rfl⟩
  · intro front object property rest stands lacking whole apart
    have first : EndsInChain 0 front := trivial
    have occurs := (stands.found_iff_even whole first (not_endsInChain apart)).mpr Even.zero
    exact ⟨_, mem_access_findings_iff.mpr
      ⟨front, object, property, rest, stands, occurs, lacking, rfl⟩, rfl, rfl⟩

/-- In `x.y.E.B` the member `B` that the enumeration `E` lacks is reported, in `x.E.B` it is not. -/
theorem deep_member_reported :
    let start := "import \x7bE\x7d from \"m\";".toList
    let front := start ++ (['x'] ++ ['.']) ++ (['y'] ++ ['.'])
    let script := front ++ "E.B".toList
    let files := (enumFiles.write "/i" script).1
    files.read? "/i" = some script ∧ EndsInChain 2 front ∧
      Finding.error 26 1 2339 "Property 'B' does not exist on type 'typeof E'." ∈
        service.semantic files "/i" ∧
      reported enumFiles "/i" (start ++ "x.E.B".toList) = [] := by
  intro start front script files
  have readable : files.read? "/i" = some script := FileSystem.read?_write_self ..
  have named (c : Char) (starts : Text.isNameStart c = true) : IsName [c] :=
    ⟨⟨c, rfl, starts⟩, by simpa using Text.isNameChar_of_isNameStart starts⟩
  have point : Text.isNameChar '.' = false := by decide +kernel
  have closed : ¬ EndsInName start := by
    have semicolon : start = "import \x7bE\x7d from \"m\"".toList ++ [';'] := by decide +kernel
    rw [semicolon]
    exact not_endsInName_concat (by decide +kernel) _
  have closed' : ¬ EndsInName (start ++ (['x'] ++ ['.'])) := by
    rw [← List.append_assoc]
    exact not_endsInName_concat point _
  have links (count : Nat) : EndsInChain (count + 2) front ↔ EndsInChain count start :=
    (endsInChain_succ_iff (named 'y' rfl) closed' (count + 1)).trans
      (endsInChain_succ_iff (named 'x' rfl) closed count)
  have chain : EndsInChain 2 front := (links 0).mpr trivial
  have longest : ¬ EndsInChain 3 front := fun longer =>
    not_endsInChain (Or.inl (by decide +kernel)) ((links 1).mp longer)
  have whole : ¬ EndsInName front := chain.not_endsInName
  have stands : Access.Stands (mask script) front ['E'] ['B'] [] :=
    ⟨by decide +kernel, named 'E' rfl, named 'B' rfl, nofun⟩
  have lacking : LacksMember (.ofScript files (mask script)) ['E'] ['B'] := by
    have bound : ((Resolution.ofScript files (mask script)).binding? ['E']).any (fun binding =>
        binding.declaration.isEnum && !decide (['B'] ∈ binding.declaration.members)) = true := by
      decide +kernel
    obtain ⟨binding, found, lacks⟩ := (Option.any_eq_true _ _).mp bound
    simp only [Bool.and_eq_true, Bool.not_eq_true', decide_eq_false_iff_not] at lacks
    exact ⟨binding, found, lacks⟩
  obtain ⟨_, reported_iff, _⟩ := missing_member_reported_iff readable
  have found := (reported_iff (.error 26 1 2339 "Property 'B' does not exist on type 'typeof E'.")).mpr
    ⟨front, ['E'], ['B'], [], 2, stands, lacking, whole, chain, longest, by decide, by decide +kernel⟩
  exact ⟨readable, chain, List.mem_of_mem_filter found, by decide +kernel⟩

end StrategyDesk.Structural
