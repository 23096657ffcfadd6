import Mathlib.Data.List.Sort
import StrategyDesk.Analysis.Structural
import StrategyDesk.Proofs.Analysis.Sources
import StrategyDesk.Sandbox.Environment

/-!
# Files without their history

Two sandboxes over one snapshot may have come to the same files in different ways: in another order
of writing, or over other versions. The own files are kept in the order of their paths, so nothing
of this shows when the files are searched, and the structural analysis reports and answers the same.
-/

set_option autoImplicit false

namespace StrategyDesk

namespace FileSystem

def content? (files : FileSystem) (path : String) : Option Text :=
  (files.file? path).map OwnFile.content

/-- Whether the files are the same, however often each of them was written. -/
structure SameFiles (files other : FileSystem) : Prop where
  snapshot : other.snapshot = files.snapshot
  contents : ∀ path, other.content? path = files.content? path

variable {files other : FileSystem}

theorem read?_eq (files : FileSystem) (path : String) :
    files.read? path = (files.content? path).or (files.snapshot.find? path) := by
  rw [read?, content?, file?]
  cases files.own.find? path <;> rfl

theorem SameFiles.read? (same : files.SameFiles other) (path : String) :
    other.read? path = files.read? path := by
  rw [read?_eq, read?_eq, same.snapshot, same.contents]

theorem SameFiles.precedes_iff (same : files.SameFiles other) (path path' : String) :
    other.Precedes path path' ↔ files.Precedes path path' := by
  have owned (path : String) : (other.file? path).isSome = (files.file? path).isSome := by
    have contents := congrArg Option.isSome (same.contents path)
    rwa [content?, content?, Option.isSome_map, Option.isSome_map] at contents
  rw [Precedes, Precedes, owned, owned, same.snapshot]

/-- A search goes over the same contents in the same order: the order is strict, and the same in
both. -/
theorem SameFiles.sources (same : files.SameFiles other) : other.sources = files.sources := by
  have strict : Std.Asymm fun a b : String × Text => files.Precedes a.1 b.1 :=
    ⟨fun _ _ precedes => precedes.asymm⟩
  have ordered : other.sources.Pairwise fun a b => files.Precedes a.1 b.1 :=
    other.sources_ordered.imp (same.precedes_iff _ _).mp
  refine ordered.eq_of_mem_iff files.sources_ordered ?_
  intro source
  rw [mem_sources_iff, mem_sources_iff, same.read?]

theorem write_content? (files : FileSystem) (path : String) (content : Text) (other : String) :
    (files.write path content).1.content? other =
      (if path = other then some content else none).or (files.content? other) := by
  obtain ⟨version, written⟩ := files.exists_write path
  rw [written, content?, content?, file?, file?]
  by_cases here : path = other
  · rw [if_pos here, ← here, PathMap.find?_insert_self]
    rfl
  · rw [if_neg here, PathMap.find?_insert_of_ne (Ne.symm here), Option.none_or]

theorem write_snapshot (files : FileSystem) (path : String) (content : Text) :
    (files.write path content).1.snapshot = files.snapshot := by
  obtain ⟨version, written⟩ := files.exists_write path
  rw [written]

end FileSystem

/-! ## The same analysis -/

section Analysis

variable {files other : FileSystem}

theorem Module.find?_sameFiles (same : files.SameFiles other) (name : Text) :
    Module.find? other name = Module.find? files name := by
  rw [find?, find?, same.sources]

theorem Structural.Study.ofScript_sameFiles (same : files.SameFiles other) (script : Text) :
    Study.ofScript other script = Study.ofScript files script := by
  have imports : Resolution.ofImport other = Resolution.ofImport files := by
    funext statement
    rw [Resolution.ofImport, Resolution.ofImport, Module.find?_sameFiles same]
  rw [ofScript, ofScript, Resolution.ofScript, Resolution.ofScript, imports]

theorem Structural.service_sameFiles (same : files.SameFiles other) (path : String) :
    service.syntactic other path = service.syntactic files path ∧
      service.semantic other path = service.semantic files path ∧
      service.answers other path = service.answers files path := by
  have study : Study.ofScript other = Study.ofScript files :=
    funext (Study.ofScript_sameFiles same)
  refine ⟨?_, ?_, ?_⟩
  · simp only [service, same.read?]
  · simp only [service, same.read?, study]
  · simp only [service, same.read?, study]

end Analysis

/-! ## Runs of writes -/

namespace Environment

def writeAll (env : Environment) : List (String × Text) → Except Failure Environment
  | [] => .ok env
  | (path, content) :: rest => do (← env.write path content).1.writeAll rest

def lastWritten? (path : String) : List (String × Text) → Option Text
  | [] => none
  | (other, content) :: rest =>
      (lastWritten? path rest).or (if other = path then some content else none)

theorem writeAll_of_live {env : Environment} (live : env.disposed = false)
    (writes : List (String × Text)) :
    ∃ files, env.writeAll writes = .ok { env with files } ∧
      files.snapshot = env.files.snapshot ∧
      ∀ path, files.content? path = (lastWritten? path writes).or (env.files.content? path) := by
  induction writes generalizing env with
  | nil => exact ⟨env.files, rfl, rfl, fun _ => rfl⟩
  | cons first rest ih =>
      obtain ⟨path, content⟩ := first
      let next : Environment := { env with files := (env.files.write path content).1 }
      have living : next.disposed = false := live
      obtain ⟨files, written, snapshot, contents⟩ := ih living
      refine ⟨files, ?_, ?_, ?_⟩
      · rw [writeAll, write_of_live live]
        exact written
      · exact snapshot.trans (FileSystem.write_snapshot _ _ _)
      · intro other
        rw [contents, FileSystem.write_content?, lastWritten?, Option.or_assoc]

/-- Two live sandboxes over one snapshot are written in different ways. If the same paths are
written with the same content at last, and the files that neither way writes are the same, then the
writes succeed, and the analysis reports the same of every file and answers the same at every
position. -/
theorem analysis_of_final_files (env other : Environment) (live : env.disposed = false)
    (live' : other.disposed = false) (structural : env.service = Structural.service)
    (structural' : other.service = Structural.service)
    (snapshot : other.files.snapshot = env.files.snapshot) {writes writes' : List (String × Text)}
    (sameWrites : ∀ path, lastWritten? path writes' = lastWritten? path writes)
    (untouched : ∀ path, lastWritten? path writes = none →
      other.files.content? path = env.files.content? path) :
    ∃ after after', env.writeAll writes = .ok after ∧ other.writeAll writes' = .ok after' ∧
      ∀ path, after'.findings path = after.findings path ∧
        after'.errorCount path = after.errorCount path ∧
        (∀ position, after'.completions path position = after.completions path position) ∧
        ∀ position, after'.quickInfo? path position = after.quickInfo? path position := by
  obtain ⟨files, written, shared, contents⟩ := writeAll_of_live live writes
  obtain ⟨files', written', shared', contents'⟩ := writeAll_of_live live' writes'
  have same : files.SameFiles files' := by
    refine ⟨by rw [shared, shared', snapshot], ?_⟩
    intro path
    rw [contents, contents', sameWrites]
    cases last : lastWritten? path writes with
    | some content => rfl
    | none => rw [Option.none_or, Option.none_or, untouched path last]
  refine ⟨{ env with files }, { other with files := files' }, written, written', ?_⟩
  intro path
  obtain ⟨syntactic, semantic, answers⟩ := Structural.service_sameFiles same path
  have reported : ({ other with files := files' } : Environment).findings path =
      ({ env with files } : Environment).findings path := by
    simp only [findings, live, live', structural, structural', syntactic, semantic]
  have answered : ({ other with files := files' } : Environment).answers path =
      ({ env with files } : Environment).answers path := by
    simp only [Environment.answers, live, live', structural, structural', answers]
  refine ⟨reported, ?_, ?_, ?_⟩
  · rw [errorCount, errorCount, reported]
  · intro position
    rw [completions, completions, answered]
  · intro position
    rw [quickInfo?, quickInfo?, answered]

/-- A library and a document are written in either order, the library over another version of it:
nothing of this shows in what is reported of the document. -/
theorem analysis_after_other_order :
    let library := "declare module \"m\" \x7b const a; \x7d".toList
    let document := "import \x7b a \x7d from \"m\";".toList
    let writes := [("/m.ts", library), ("/index.ts", document)]
    let writes' := [("/m.ts", []), ("/index.ts", document), ("/m.ts", library)]
    let env : Environment := .create "first" (.onSnapshot .empty) Structural.service
    let other : Environment := .create "second" (.onSnapshot .empty) Structural.service
    ∃ after after', env.writeAll writes = .ok after ∧ other.writeAll writes' = .ok after' ∧
      after'.findings "/index.ts" = after.findings "/index.ts" ∧
      (after.files.file? "/m.ts").map OwnFile.version = some 1 ∧
      (after'.files.file? "/m.ts").map OwnFile.version = some 2 := by
  intro library document writes writes' env other
  have sameWrites (path : String) : lastWritten? path writes' = lastWritten? path writes := by
    by_cases first : "/m.ts" = path
    · rw [← first]
      decide +kernel
    · simp only [writes, writes', lastWritten?, if_neg first, Option.or_none, Option.none_or]
  obtain ⟨after, after', written, written', same⟩ :=
    analysis_of_final_files env other rfl rfl rfl rfl rfl sameWrites fun _ _ => rfl
  let version (env : Environment) : Option UInt32 :=
    (env.files.file? "/m.ts").map OwnFile.version
  have once : (env.writeAll writes).toOption.map version = some (some 1) := by decide +kernel
  have twice : (other.writeAll writes').toOption.map version = some (some 2) := by
    decide +kernel
  rw [written] at once
  rw [written'] at twice
  exact ⟨after, after', written, written', (same "/index.ts").1, Option.some.inj once,
    Option.some.inj twice⟩

end Environment

end StrategyDesk
