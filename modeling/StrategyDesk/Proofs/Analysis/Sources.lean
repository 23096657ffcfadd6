import StrategyDesk.Analysis.Module
import StrategyDesk.Proofs.Session.Sandbox

/-!
# The files of a sandbox in the order of the search

A search goes over the files that can be read, each once: the sandbox's own files in the order of
their paths, then the shared ones as they are enumerated. A new file takes its place among the own
files. What is found of a module depends only on what each file says about it, in this order.
-/

set_option autoImplicit false

namespace StrategyDesk

namespace PathMap

variable {α β : Type}

theorem map_insertEntry_congr {g : String × α → β} {path : String} {value value' : α}
    (same : g (path, value) = g (path, value')) (entries : List (String × α)) :
    (insertEntry path value entries).map g = (insertEntry path value' entries).map g := by
  induction entries with
  | nil => simp only [insertEntry, List.map_cons, same]
  | cons first rest ih =>
      simp only [insertEntry]
      split
      · simp only [List.map_cons, same]
      · split
        · simp only [List.map_cons, same]
        · simp only [List.map_cons, ih]

theorem find?_entries {entries : List (String × α)}
    (distinct : entries.Pairwise fun a b => a.1 ≠ b.1) {path : String} {value : α}
    (inside : (path, value) ∈ entries) :
    (entries.find? fun entry => entry.1 == path) = some (path, value) := by
  induction entries with
  | nil => cases inside
  | cons first rest ih =>
      obtain ⟨others, restDistinct⟩ := List.pairwise_cons.mp distinct
      rcases List.mem_cons.mp inside with rfl | later
      · rw [List.find?_cons, beq_self_eq_true]
      · rw [List.find?_cons, beq_eq_false_iff_ne.mpr (others (path, value) later)]
        exact ih restDistinct later

theorem mem_iff_find? {entries : List (String × α)}
    (distinct : entries.Pairwise fun a b => a.1 ≠ b.1) (entry : String × α) :
    entry ∈ entries ↔
      (entries.find? fun other => other.1 == entry.1).map Prod.snd = some entry.2 := by
  constructor
  · intro inside
    rw [find?_entries distinct inside, Option.map_some]
  · intro found
    obtain ⟨held, search, same⟩ := Option.map_eq_some_iff.mp found
    have path := List.find?_some search
    have inside := List.mem_of_find?_eq_some search
    rwa [show held = entry from Prod.ext (beq_iff_eq.mp path) same] at inside

theorem mem_entries_iff (map : PathMap α) (entry : String × α) :
    entry ∈ map.entries ↔ map.find? entry.1 = some entry.2 :=
  mem_iff_find? (map.ordered.imp fun less => String.ne_of_lt less) entry

theorem insertEntry_new {entries : List (String × α)}
    (ordered : entries.Pairwise fun a b => a.1 < b.1) {path : String} (value : α)
    (fresh : ∀ entry ∈ entries, entry.1 ≠ path) :
    ∃ earlier later, entries = earlier ++ later ∧
      insertEntry path value entries = earlier ++ (path, value) :: later ∧
      (∀ entry ∈ earlier, entry.1 < path) ∧ ∀ entry ∈ later, path < entry.1 := by
  induction entries with
  | nil => exact ⟨[], [], rfl, rfl, by simp, by simp⟩
  | cons first rest ih =>
      obtain ⟨before, restOrdered⟩ := List.pairwise_cons.mp ordered
      have different : path ≠ first.1 := (fresh first List.mem_cons_self).symm
      by_cases less : path < first.1
      · refine ⟨[], first :: rest, rfl, by simp only [insertEntry, if_pos less]; rfl, by simp, ?_⟩
        intro entry inside
        rcases List.mem_cons.mp inside with rfl | later
        · exact less
        · exact String.lt_trans less (before entry later)
      · have greater : first.1 < path := by
          refine String.not_le.mp ?_
          intro atMost
          exact different (String.le_antisymm atMost (String.not_lt.mp less))
        obtain ⟨earlier, later, split, inserted, smaller, bigger⟩ :=
          ih restOrdered fun entry inside => fresh entry (List.mem_cons_of_mem _ inside)
        refine ⟨first :: earlier, later, by rw [split]; rfl, ?_, ?_, bigger⟩
        · simp only [insertEntry, if_neg less, if_neg different, inserted]
          rfl
        · intro entry inside
          rcases List.mem_cons.mp inside with rfl | inside
          · exact greater
          · exact smaller entry inside

theorem contains_insert (map : PathMap α) (path other : String) (value : α) :
    (map.insert path value).contains other = (other == path || map.contains other) := by
  by_cases here : other = path
  · rw [contains, here, find?_insert_self]
    simp
  · rw [contains, find?_insert_of_ne here, contains, beq_eq_false_iff_ne.mpr here, Bool.false_or]

end PathMap

theorem Snapshot.mem_entries_iff (snapshot : Snapshot) (entry : String × Text) :
    entry ∈ snapshot.entries ↔ snapshot.find? entry.1 = some entry.2 :=
  PathMap.mem_iff_find? snapshot.distinct entry

/-- The place of a shared file in the enumeration. -/
def Snapshot.rank (snapshot : Snapshot) (path : String) : Nat :=
  (snapshot.entries.map Prod.fst).idxOf path

theorem Snapshot.ranked (snapshot : Snapshot) :
    snapshot.entries.Pairwise fun a b => snapshot.rank a.1 < snapshot.rank b.1 := by
  have distinct : (snapshot.entries.map Prod.fst).Nodup := List.pairwise_map.mpr snapshot.distinct
  refine List.pairwise_iff_getElem.mpr ?_
  intro i j left right less
  have place (k : Nat) (inside : k < snapshot.entries.length) :
      snapshot.rank snapshot.entries[k].1 = k := by
    rw [rank, ← List.getElem_map Prod.fst, distinct.idxOf_getElem]
    rwa [List.length_map]
  rwa [place i left, place j right]

namespace FileSystem

/-- Whether a search comes to a file before it comes to another one. -/
def Precedes (files : FileSystem) (path other : String) : Prop :=
  match (files.file? path).isSome, (files.file? other).isSome with
  | true, true => path < other
  | true, false => True
  | false, true => False
  | false, false => files.snapshot.rank path < files.snapshot.rank other

theorem Precedes.asymm {files : FileSystem} {path other : String}
    (precedes : files.Precedes path other) : ¬ files.Precedes other path := by
  revert precedes
  unfold Precedes
  cases (files.file? path).isSome <;> cases (files.file? other).isSome
  case false.false => exact Nat.lt_asymm
  case true.true => exact fun less back => String.lt_irrefl path (String.lt_trans less back)
  case false.true => exact False.elim
  case true.false => exact fun _ => id

theorem sources_eq (files : FileSystem) :
    files.sources = files.own.entries.map (fun entry => (entry.1, entry.2.content)) ++
      files.snapshot.entries.filter fun entry => !files.own.contains entry.1 := rfl

theorem mem_sources_iff (files : FileSystem) (source : String × Text) :
    source ∈ files.sources ↔ files.read? source.1 = some source.2 := by
  obtain ⟨path, content⟩ := source
  rw [sources_eq, List.mem_append, List.mem_map, List.mem_filter, Snapshot.mem_entries_iff, read?]
  cases own : files.own.find? path with
  | some file =>
      have hidden : files.own.contains path = true := by
        rw [PathMap.contains, own]
        rfl
      constructor
      · rintro (⟨entry, inside, same⟩ | ⟨_, shown⟩)
        · cases same
          have held := (PathMap.mem_entries_iff files.own entry).mp inside
          rw [own] at held
          cases held
          rfl
        · rw [hidden] at shown
          cases shown
      · intro same
        cases same
        exact Or.inl ⟨(path, file), (PathMap.mem_entries_iff files.own _).mpr own, rfl⟩
  | none =>
      have shown : files.own.contains path = false := by
        rw [PathMap.contains, own]
        rfl
      constructor
      · rintro (⟨entry, inside, same⟩ | ⟨held, _⟩)
        · cases same
          have held := (PathMap.mem_entries_iff files.own entry).mp inside
          rw [own] at held
          cases held
        · exact held
      · intro held
        exact Or.inr ⟨held, by rw [shown]; rfl⟩

theorem sources_ordered (files : FileSystem) :
    files.sources.Pairwise fun a b => files.Precedes a.1 b.1 := by
  have own {entry : String × OwnFile} (inside : entry ∈ files.own.entries) :
      (files.file? entry.1).isSome = true := by
    rw [file?, (PathMap.mem_entries_iff files.own entry).mp inside]
    rfl
  have shared {entry : String × Text}
      (inside : entry ∈ files.snapshot.entries.filter fun entry => !files.own.contains entry.1) :
      (files.file? entry.1).isSome = false := by
    have shown := (List.mem_filter.mp inside).2
    rwa [Bool.not_eq_true'] at shown
  rw [sources_eq, List.pairwise_append, List.pairwise_map]
  refine ⟨?_, ?_, ?_⟩
  · refine files.own.ordered.imp_of_mem ?_
    intro a b inside inside' less
    rw [Precedes, own inside, own inside']
    exact less
  · refine (files.snapshot.ranked.filter _).imp_of_mem ?_
    intro a b inside inside' less
    rw [Precedes, shared inside, shared inside']
    exact less
  · intro a inside b inside'
    obtain ⟨entry, held, rfl⟩ := List.mem_map.mp inside
    rw [Precedes, own held, shared inside']
    trivial

theorem exists_write (files : FileSystem) (path : String) :
    ∃ version, ∀ content, (files.write path content).1 =
      { files with own := files.own.insert path ⟨content, version⟩ } := by
  cases held : files.own.find? path with
  | some file =>
      refine ⟨file.version + 1, ?_⟩
      intro content
      simp only [write, held]
  | none =>
      refine ⟨1, ?_⟩
      intro content
      simp only [write, held]

/-- What is seen of the files after a write is settled by what is seen of the written content. -/
theorem map_sources_write_congr {β : Type} {g : String × Text → β} {path : String}
    {content content' : Text} (same : g (path, content) = g (path, content'))
    (files : FileSystem) :
    (files.write path content).1.sources.map g = (files.write path content').1.sources.map g := by
  obtain ⟨version, written⟩ := files.exists_write path
  rw [written, written]
  simp only [sources_eq, List.map_append, List.map_map, PathMap.contains_insert]
  have seen : (g ∘ fun entry : String × OwnFile => (entry.1, entry.2.content))
        (path, OwnFile.mk content version) =
      (g ∘ fun entry : String × OwnFile => (entry.1, entry.2.content))
        (path, OwnFile.mk content' version) := same
  exact congrArg (· ++ _) (PathMap.map_insertEntry_congr seen files.own.entries)

theorem absent_of_fresh {files : FileSystem} {path : String} (fresh : files.read? path = none) :
    files.own.find? path = none ∧ files.snapshot.find? path = none := by
  unfold read? at fresh
  split at fresh
  · cases fresh
  next unowned => exact ⟨unowned, fresh⟩

/-- An own file hides no shared file unless there is one with its path. -/
theorem shared_insert {files : FileSystem} {path : String}
    (unshared : files.snapshot.find? path = none) (file : OwnFile) :
    (files.snapshot.entries.filter fun entry => !(files.own.insert path file).contains entry.1) =
      files.snapshot.entries.filter fun entry => !files.own.contains entry.1 := by
  refine List.filter_congr ?_
  intro entry inside
  have other : (entry.1 == path) = false := by
    refine beq_eq_false_iff_ne.mpr ?_
    rintro rfl
    rw [(files.snapshot.mem_entries_iff entry).mp inside] at unshared
    cases unshared
  rw [PathMap.contains_insert, other, Bool.false_or]

theorem sources_write_new {files : FileSystem} {path : String} (fresh : files.read? path = none)
    (content : Text) :
    ∃ earlier later, files.sources = earlier ++ later ∧
      (files.write path content).1.sources = earlier ++ (path, content) :: later ∧
      ∀ source, source ∈ earlier ↔
        ∃ file, files.file? source.1 = some file ∧ file.content = source.2 ∧ source.1 < path := by
  obtain ⟨unowned, unshared⟩ := absent_of_fresh fresh
  have absent : ∀ entry ∈ files.own.entries, entry.1 ≠ path := by
    rintro entry inside rfl
    rw [(PathMap.mem_entries_iff files.own entry).mp inside] at unowned
    cases unowned
  obtain ⟨version, written⟩ := files.exists_write path
  obtain ⟨earlier, later, split, inserted, smaller, bigger⟩ :=
    PathMap.insertEntry_new files.own.ordered (OwnFile.mk content version) absent
  refine ⟨earlier.map fun entry => (entry.1, entry.2.content),
    (later.map fun entry => (entry.1, entry.2.content)) ++
      files.snapshot.entries.filter fun entry => !files.own.contains entry.1, ?_, ?_, ?_⟩
  · rw [sources_eq, split, List.map_append, List.append_assoc]
  · rw [written, sources_eq, shared_insert unshared]
    simp only [PathMap.insert, inserted, List.map_append, List.map_cons, List.append_assoc,
      List.cons_append]
  · rintro ⟨other, text⟩
    constructor
    · intro inside
      obtain ⟨entry, held, same⟩ := List.mem_map.mp inside
      cases same
      have owned : entry ∈ files.own.entries := split ▸ List.mem_append_left _ held
      exact ⟨entry.2, (PathMap.mem_entries_iff files.own entry).mp owned, rfl, smaller entry held⟩
    · rintro ⟨file, owned, rfl, less⟩
      have held : (other, file) ∈ files.own.entries :=
        (PathMap.mem_entries_iff files.own (other, file)).mpr owned
      rw [split, List.mem_append] at held
      rcases held with inEarlier | inLater
      · exact List.mem_map.mpr ⟨_, inEarlier, rfl⟩
      · exact absurd (String.lt_trans less (bigger _ inLater)) (String.lt_irrefl other)

end FileSystem

namespace Module

theorem firstIn?_congr {name : Text} {contents contents' : List Text}
    (same : contents.map (search name) = contents'.map (search name)) :
    firstIn? name contents = firstIn? name contents' := by
  induction contents generalizing contents' with
  | nil =>
      rw [List.map_eq_nil_iff.mp same.symm]
  | cons content contents ih =>
      cases contents' with
      | nil => cases same
      | cons content' contents' =>
          obtain ⟨first, later⟩ := List.cons.inj same
          simp only [firstIn?, first, ih later]

theorem find?_write_congr {name content content' : Text}
    (same : search name content = search name content') (files : FileSystem) (path : String) :
    find? (files.write path content).1 name = find? (files.write path content').1 name := by
  refine firstIn?_congr ?_
  rw [List.map_map, List.map_map]
  exact FileSystem.map_sources_write_congr same files

end Module

end StrategyDesk
