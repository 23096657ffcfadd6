import StrategyDesk.Session

/-!
# The sandbox of a session

A file that was written reads as it was written, a live sandbox takes every document, and a manager
hands out live sandboxes only.
-/

set_option autoImplicit false

namespace StrategyDesk

namespace PathMap

variable {α : Type}

theorem find?_insertEntry (path : String) (value : α) (entries : List (String × α)) :
    ((insertEntry path value entries).find? fun entry => entry.1 == path) =
      some (path, value) := by
  induction entries with
  | nil => simp [insertEntry]
  | cons first rest ih =>
      simp only [insertEntry]
      split
      · simp
      · split
        · simp
        next different =>
          have other : (first.1 == path) = false :=
            beq_eq_false_iff_ne.mpr fun same => different same.symm
          rw [List.find?_cons, other]
          exact ih

theorem find?_insertEntry_of_ne {path other : String} (different : other ≠ path) (value : α)
    (entries : List (String × α)) :
    ((insertEntry path value entries).find? fun entry => entry.1 == other) =
      entries.find? fun entry => entry.1 == other := by
  have skipped : (path == other) = false := beq_eq_false_iff_ne.mpr different.symm
  induction entries with
  | nil => simp only [insertEntry, List.find?_cons, skipped]
  | cons first rest ih =>
      simp only [insertEntry]
      split
      · rw [List.find?_cons, skipped]
      · split
        next same => rw [List.find?_cons, List.find?_cons, ← same, skipped]
        · rw [List.find?_cons, List.find?_cons, ih]

theorem find?_insert_self (map : PathMap α) (path : String) (value : α) :
    (map.insert path value).find? path = some value := by
  simp only [find?, insert, find?_insertEntry, Option.map_some]

theorem find?_insert_of_ne {path other : String} (different : other ≠ path) (map : PathMap α)
    (value : α) : (map.insert path value).find? other = map.find? other := by
  simp only [find?, insert, find?_insertEntry_of_ne different]

end PathMap

theorem FileSystem.read?_write_self (files : FileSystem) (path : String) (content : Text) :
    (files.write path content).1.read? path = some content := by
  unfold write
  split <;> simp [read?, PathMap.find?_insert_self]

theorem FileSystem.read?_write_of_ne {path other : String} (different : other ≠ path)
    (files : FileSystem) (content : Text) :
    (files.write path content).1.read? other = files.read? other := by
  unfold write
  split <;> simp only [read?, PathMap.find?_insert_of_ne different]

namespace Environment

theorem write_of_live {env : Environment} (live : env.disposed = false) (path : String)
    (content : Text) :
    env.write path content =
      .ok ({ env with files := (env.files.write path content).1 },
        (env.files.write path content).2) := by
  simp [write, live]

theorem sync_of_live {env : Environment} (live : env.disposed = false) (path : String)
    (text : Text) :
    ∃ files, env.sync path text = .ok { env with files } ∧ files.read? path = some text := by
  unfold sync
  split
  next same => exact ⟨env.files, rfl, same⟩
  · refine ⟨(env.files.write path text).1, ?_, FileSystem.read?_write_self _ _ _⟩
    rw [write_of_live live]
    rfl

end Environment

theorem Manager.furnish_live {manager : Manager} {snapshot : Snapshot} {env : Environment}
    (furnished : (manager.furnish snapshot).2 = .ok env) : env.disposed = false := by
  simp only [furnish] at furnished
  cases made : manager.backend.create manager.options manager.services with
  | error failure =>
      rw [made] at furnished
      cases furnished
  | ok service =>
      rw [made] at furnished
      cases furnished
      rfl

/-- What a manager hands out is over its snapshot, with an analysis that its backend made. -/
theorem Manager.acquire_ok {manager supplier : Manager} {env : Environment}
    (acquired : manager.acquire = (supplier, .ok env)) :
    ∃ snapshot, supplier.snapshot = some snapshot ∧ env.files = .onSnapshot snapshot ∧
      manager.backend.create manager.options manager.services = .ok env.service := by
  have furnished {source : Manager} {snapshot : Snapshot}
      (made : source.furnish snapshot = (supplier, .ok env)) :
      supplier.snapshot = source.snapshot ∧ env.files = .onSnapshot snapshot ∧
        source.backend.create source.options source.services = .ok env.service := by
    unfold furnish at made
    cases created : source.backend.create source.options source.services with
    | error failure =>
        rw [created] at made
        cases made
    | ok service =>
        rw [created] at made
        cases made
        exact ⟨rfl, rfl, rfl⟩
  unfold acquire at acquired
  split at acquired
  next snapshot kept =>
    obtain ⟨same, rest⟩ := furnished acquired
    exact ⟨snapshot, same.trans kept, rest⟩
  · simp only [beginLoad, endLoad] at acquired
    cases loaded : manager.source.load manager.loads with
    | error failure =>
        simp only [loaded] at acquired
        cases acquired
    | ok snapshot =>
        simp only [loaded] at acquired
        exact ⟨snapshot, furnished acquired⟩

theorem Manager.acquire_live {manager : Manager} {env : Environment}
    (acquired : manager.acquire.2 = .ok env) : env.disposed = false := by
  unfold acquire at acquired
  split at acquired
  · exact furnish_live acquired
  · dsimp only at acquired
    split at acquired
    · exact furnish_live acquired
    · cases acquired

end StrategyDesk
