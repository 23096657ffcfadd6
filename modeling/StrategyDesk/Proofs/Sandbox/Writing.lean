import Mathlib.Data.List.Induction
import StrategyDesk.Proofs.Analysis.History
import StrategyDesk.Proofs.Text.ByteOrder

/-!
# Files as a plain map

A sandbox keeps its own files over shared ones. Whatever is written and synchronised in it, it reads
as one map from paths to contents would, in which a later content takes the place of an earlier one.
A synchronisation writes only what does not read so already. Versions count the writes of a file.
The list of all sources loses none and shows none twice, however many shared files are hidden.
-/

set_option autoImplicit false

namespace StrategyDesk

inductive FileOperation where
  | write (path : String) (content : Text)
  | sync (path : String) (text : Text)
deriving DecidableEq, Repr

namespace Environment

def perform (env : Environment) : FileOperation → Except Failure Environment
  | .write path content => (env.write path content).map Prod.fst
  | .sync path text => env.sync path text

def performAll (env : Environment) : List FileOperation → Except Failure Environment
  | [] => .ok env
  | operation :: rest => do (← env.perform operation).performAll rest

/-! ## The plain map -/

def contentAfter (snapshot : Snapshot) (writes : List (String × Text)) (path : String) :
    Option Text :=
  (lastWritten? path writes).or (snapshot.find? path)

def recordWrite (snapshot : Snapshot) (writes : List (String × Text)) :
    FileOperation → List (String × Text)
  | .write path content => writes ++ [(path, content)]
  | .sync path text =>
      if contentAfter snapshot writes path = some text then writes else writes ++ [(path, text)]

def writesOf (snapshot : Snapshot) (operations : List FileOperation) : List (String × Text) :=
  operations.foldl (recordWrite snapshot) []

def timesWritten (path : String) (writes : List (String × Text)) : Nat :=
  (writes.map Prod.fst).count path

theorem lastWritten?_concat (path other : String) (content : Text)
    (writes : List (String × Text)) :
    lastWritten? path (writes ++ [(other, content)]) =
      if other = path then some content else lastWritten? path writes := by
  induction writes with
  | nil => simp [lastWritten?]
  | cons first rest ih =>
      rw [List.cons_append, lastWritten?, lastWritten?, ih]
      split <;> simp

theorem timesWritten_concat (path other : String) (content : Text)
    (writes : List (String × Text)) :
    timesWritten path (writes ++ [(other, content)]) =
      timesWritten path writes + if other = path then 1 else 0 := by
  simp [timesWritten, List.count_append, List.count_singleton, beq_iff_eq]

theorem lastWritten?_isSome (path : String) (writes : List (String × Text)) :
    (lastWritten? path writes).isSome = true ↔ 0 < timesWritten path writes := by
  induction writes using List.reverseRecOn with
  | nil => simp [lastWritten?, timesWritten]
  | append_singleton writes last ih =>
      obtain ⟨other, content⟩ := last
      rw [lastWritten?_concat, timesWritten_concat]
      split
      · simp
      · simpa using ih

theorem timesWritten_le (path : String) (writes : List (String × Text)) :
    timesWritten path writes ≤ writes.length := by
  have counted : timesWritten path writes ≤ (writes.map Prod.fst).length := List.count_le_length
  simpa using counted

theorem writesOf_length (snapshot : Snapshot) (operations : List FileOperation) :
    (writesOf snapshot operations).length ≤ operations.length := by
  induction operations using List.reverseRecOn with
  | nil => simp [writesOf]
  | append_singleton operations operation ih =>
      rw [writesOf, List.foldl_append, List.foldl_cons, List.foldl_nil, ← writesOf,
        List.length_append, List.length_singleton]
      cases operation with
      | write path content => simpa [recordWrite] using ih
      | sync path text =>
          rw [recordWrite]
          split
          · exact Nat.le_succ_of_le ih
          · simpa using ih

end Environment

/-! ## The files after writes -/

namespace FileSystem

open Environment

/-- Whether the files are the shared ones after the writes. Versions count within a word. -/
structure Holds (files : FileSystem) (snapshot : Snapshot) (writes : List (String × Text)) :
    Prop where
  snapshot : files.snapshot = snapshot
  file : ∀ path, files.file? path = (lastWritten? path writes).map fun content =>
    ⟨content, .ofNat (timesWritten path writes)⟩

variable {files : FileSystem} {snapshot : Snapshot} {writes : List (String × Text)}

theorem onSnapshot_holds (snapshot : Snapshot) : (onSnapshot snapshot).Holds snapshot [] :=
  ⟨rfl, fun _ => rfl⟩

theorem Holds.read? (holds : files.Holds snapshot writes) (path : String) :
    files.read? path = contentAfter snapshot writes path := by
  rw [read?_eq, content?, holds.file, holds.snapshot, Option.map_map, contentAfter]
  simp [Function.comp_def]

theorem Holds.owned_iff (holds : files.Holds snapshot writes) (path : String) :
    (files.file? path).isSome = true ↔ 0 < timesWritten path writes := by
  rw [holds.file, Option.isSome_map, lastWritten?_isSome]

theorem file?_write_self (files : FileSystem) (path : String) (content : Text) :
    (files.write path content).1.file? path =
      some ⟨content, (((files.file? path).map OwnFile.version).getD 0) + 1⟩ := by
  unfold write file?
  cases files.own.find? path <;> simp [PathMap.find?_insert_self]

theorem file?_write_of_ne {path other : String} (different : other ≠ path) (files : FileSystem)
    (content : Text) : (files.write path content).1.file? other = files.file? other := by
  unfold write file?
  cases files.own.find? path <;> simp [PathMap.find?_insert_of_ne different]

theorem write_change (files : FileSystem) (path : String) (content : Text) :
    (files.write path content).2 = .created ↔ (files.file? path).isSome = false := by
  unfold write file?
  cases files.own.find? path <;> simp

theorem Holds.version (holds : files.Holds snapshot writes) (path : String) :
    ((files.file? path).map OwnFile.version).getD 0 = .ofNat (timesWritten path writes) := by
  rw [holds.file]
  cases last : lastWritten? path writes with
  | some content => rfl
  | none =>
      have unwritten := mt (lastWritten?_isSome path writes).mpr (by simp [last])
      rw [Nat.eq_zero_of_not_pos unwritten]
      rfl

theorem Holds.write (holds : files.Holds snapshot writes) (path : String) (content : Text) :
    (files.write path content).1.Holds snapshot (writes ++ [(path, content)]) := by
  refine ⟨(write_snapshot files path content).trans holds.snapshot, fun other => ?_⟩
  rw [lastWritten?_concat, timesWritten_concat]
  by_cases here : path = other
  · subst here
    rw [if_pos rfl, if_pos rfl, file?_write_self, holds.version, UInt32.ofNat_add]
    rfl
  · rw [if_neg here, if_neg here, file?_write_of_ne (Ne.symm here), holds.file, Nat.add_zero]

theorem sources_paths_nodup (files : FileSystem) : (files.sources.map Prod.fst).Nodup := by
  rw [List.Nodup, List.pairwise_map]
  refine files.sources_ordered.imp ?_
  intro a b precedes same
  rw [same] at precedes
  exact precedes.asymm precedes

/-- The list of all sources begins with the own files, in the order of the bytes of their paths. -/
theorem exists_own_sources (files : FileSystem) :
    ∃ own shared, files.sources = own ++ shared ∧
      (∀ source ∈ own, (files.file? source.1).isSome = true) ∧
      (∀ source ∈ shared, (files.file? source.1).isSome = false) ∧
      own.Pairwise fun a b => Web.utf8 a.1.toList < Web.utf8 b.1.toList := by
  refine ⟨_, _, files.sources_eq, ?_, ?_, ?_⟩
  · intro source member
    obtain ⟨entry, inside, rfl⟩ := List.mem_map.mp member
    rw [file?, (PathMap.mem_entries_iff files.own entry).mp inside]
    rfl
  · intro source member
    have hidden := (List.mem_filter.mp member).2
    rwa [Bool.not_eq_true'] at hidden
  · rw [List.pairwise_map]
    refine files.own.ordered.imp ?_
    intro a b less
    exact Web.utf8_lt (String.lt_iff.mp less)

end FileSystem

namespace Environment

/-- Whether a sandbox was changed at no more than one path. -/
structure ChangedAt (env after : Environment) (path : String) : Prop where
  snapshot : after.files.snapshot = env.files.snapshot
  read? : ∀ other, other ≠ path → after.files.read? other = env.files.read? other
  file? : ∀ other, other ≠ path → after.files.file? other = env.files.file? other

variable {env : Environment}

theorem changedAt_write (env : Environment) (path : String) (content : Text) :
    env.ChangedAt { env with files := (env.files.write path content).1 } path where
  snapshot := FileSystem.write_snapshot _ _ _
  read? _ different := FileSystem.read?_write_of_ne different _ _
  file? _ different := FileSystem.file?_write_of_ne different _ _

/-- A live sandbox that does not read so yet is written by a synchronisation, and else stays. -/
theorem sync_eq (live : env.disposed = false) (path : String) (text : Text) :
    env.sync path text =
      .ok (if env.files.read? path = some text then env
        else { env with files := (env.files.write path text).1 }) := by
  unfold sync
  split
  · rfl
  · rw [write_of_live live]
    rfl

theorem perform_holds {snapshot : Snapshot} {writes : List (String × Text)}
    (live : env.disposed = false) (holds : env.files.Holds snapshot writes)
    (operation : FileOperation) :
    ∃ after, env.perform operation = .ok after ∧ after.disposed = false ∧
      after.files.Holds snapshot (recordWrite snapshot writes operation) := by
  cases operation with
  | write path content =>
      refine ⟨{ env with files := (env.files.write path content).1 }, ?_, live,
        holds.write path content⟩
      rw [perform, write_of_live live]
      rfl
  | sync path text =>
      refine ⟨_, sync_eq live path text, ?_, ?_⟩
      · split <;> exact live
      · rw [recordWrite, ← holds.read?]
        split
        · exact holds
        · exact holds.write path text

theorem performAll_holds {snapshot : Snapshot} {writes : List (String × Text)}
    (live : env.disposed = false) (holds : env.files.Holds snapshot writes)
    (operations : List FileOperation) :
    ∃ after, env.performAll operations = .ok after ∧ after.disposed = false ∧
      after.files.Holds snapshot (operations.foldl (recordWrite snapshot) writes) := by
  induction operations generalizing env writes with
  | nil => exact ⟨env, rfl, live, holds⟩
  | cons operation rest ih =>
      obtain ⟨middle, performed, living, held⟩ := perform_holds live holds operation
      obtain ⟨after, finished, last, shown⟩ := ih living held
      refine ⟨after, ?_, last, shown⟩
      rw [performAll, performed]
      exact finished

/-- After fewer than 2³² operations on a new sandbox over shared files, it reads as a plain map does
after the writes among them, and each version counts the writes of its file. The sources are what
can be read, each path once and the own files first. The next write says whether it is the first one
at its path; neither it nor a synchronisation touches anything else. -/
theorem files_of_run (id : String) (snapshot : Snapshot) (service : Service)
    (operations : List FileOperation) (few : operations.length < UInt32.size) :
    let writes := writesOf snapshot operations
    ∃ env, (create id (.onSnapshot snapshot) service).performAll operations = .ok env ∧
      env.disposed = false ∧
      env.files.snapshot = snapshot ∧
      (∀ path, env.files.read? path = (lastWritten? path writes).or (snapshot.find? path)) ∧
      (∀ path, (((env.files.file? path).map OwnFile.version).getD 0).toNat =
        timesWritten path writes) ∧
      (∀ source, source ∈ env.files.sources ↔ env.files.read? source.1 = some source.2) ∧
      (env.files.sources.map Prod.fst).Nodup ∧
      (∃ own shared, env.files.sources = own ++ shared ∧
        (∀ source ∈ own, 0 < timesWritten source.1 writes) ∧
        (∀ source ∈ shared, timesWritten source.1 writes = 0) ∧
        own.Pairwise fun a b => Web.utf8 a.1.toList < Web.utf8 b.1.toList) ∧
      ∀ path text,
        (∃ after change, env.write path text = .ok (after, change) ∧
          (change = .created ↔ timesWritten path writes = 0) ∧ env.ChangedAt after path) ∧
        ∃ after, env.sync path text = .ok after ∧ env.ChangedAt after path ∧
          (env.files.read? path = some text → after = env) := by
  intro writes
  have started : (create id (.onSnapshot snapshot) service).disposed = false := rfl
  obtain ⟨env, performed, live, holds⟩ :=
    performAll_holds started (FileSystem.onSnapshot_holds snapshot) operations
  have bounded (path : String) : timesWritten path writes < UInt32.size :=
    (timesWritten_le path writes).trans_lt
      ((writesOf_length snapshot operations).trans_lt few)
  have unowned (path : String) :
      (env.files.file? path).isSome = false ↔ timesWritten path writes = 0 := by
    have owned := holds.owned_iff path
    rw [← Bool.not_eq_true, owned]
    exact Nat.not_lt.trans Nat.le_zero
  refine ⟨env, performed, live, holds.snapshot, holds.read?, ?_, env.files.mem_sources_iff,
    env.files.sources_paths_nodup, ?_, ?_⟩
  · intro path
    rw [holds.version]
    exact UInt32.toNat_ofNat_of_lt' (bounded path)
  · obtain ⟨own, shared, split, owned, others, ordered⟩ := env.files.exists_own_sources
    refine ⟨own, shared, split, ?_, ?_, ordered⟩
    · exact fun source member => (holds.owned_iff _).mp (owned source member)
    · exact fun source member => (unowned _).mp (others source member)
  · intro path text
    refine ⟨⟨_, _, write_of_live live path text, ?_, changedAt_write env path text⟩,
      _, sync_eq live path text, ?_, ?_⟩
    · rw [FileSystem.write_change, unowned]
    · split
      · exact ⟨rfl, fun _ _ => rfl, fun _ _ => rfl⟩
      · exact changedAt_write env path text
    · intro same
      rw [if_pos same]

/-- A shared file is synchronised as it is, then hidden by a write, then synchronised with something
else, twice: two of these four operations write it. -/
theorem shared_file_hidden :
    let snapshot : Snapshot := .ofList [("/a", ['x'])]
    let operations : List FileOperation :=
      [.sync "/a" ['x'], .write "/a" ['y'], .sync "/b" [], .sync "/a" ['z'], .sync "/a" ['z']]
    operations.length < UInt32.size ∧
      writesOf snapshot operations = [("/a", ['y']), ("/b", []), ("/a", ['z'])] ∧
      ∃ env,
        (create "s" (.onSnapshot snapshot) Structural.service).performAll operations = .ok env ∧
        env.files.snapshot = snapshot ∧ env.files.read? "/a" = some ['z'] ∧
        (((env.files.file? "/a").map OwnFile.version).getD 0).toNat = 2 := by
  intro snapshot operations
  have few : operations.length < UInt32.size := by decide
  have recorded : writesOf snapshot operations = [("/a", ['y']), ("/b", []), ("/a", ['z'])] := by
    decide +kernel
  obtain ⟨env, performed, -, kept, read, version, -⟩ :=
    files_of_run "s" snapshot Structural.service operations few
  refine ⟨few, recorded, env, performed, kept, ?_, ?_⟩
  · rw [read, recorded]
    decide +kernel
  · rw [version, recorded]
    decide

end Environment

end StrategyDesk
