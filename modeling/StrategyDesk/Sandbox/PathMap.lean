/-!
# Maps from paths

A map from paths to values is kept as the list of its entries, in the order of their paths, each
path once.
-/

set_option autoImplicit false

namespace StrategyDesk

/-- A finite map from paths, ordered by path. -/
structure PathMap (α : Type) where
  entries : List (String × α)
  ordered : entries.Pairwise fun a b => a.1 < b.1

namespace PathMap

variable {α β : Type}

def empty : PathMap α := ⟨[], .nil⟩

instance : Inhabited (PathMap α) := ⟨empty⟩

def find? (map : PathMap α) (path : String) : Option α :=
  (map.entries.find? fun entry => entry.1 == path).map Prod.snd

def contains (map : PathMap α) (path : String) : Bool := (map.find? path).isSome

def size (map : PathMap α) : Nat := map.entries.length

def insertEntry (path : String) (value : α) : List (String × α) → List (String × α)
  | [] => [(path, value)]
  | entry :: rest =>
      if path < entry.1 then (path, value) :: entry :: rest
      else if path = entry.1 then (path, value) :: rest
      else entry :: insertEntry path value rest

theorem mem_insertEntry {path : String} {value : α} {entries : List (String × α)}
    {entry : String × α} (member : entry ∈ insertEntry path value entries) :
    entry = (path, value) ∨ entry ∈ entries := by
  induction entries with
  | nil => exact Or.inl (by simpa [insertEntry] using member)
  | cons first rest ih =>
      simp only [insertEntry] at member
      split at member
      · simpa using member
      · split at member
        · rcases List.mem_cons.mp member with equal | inRest
          · exact Or.inl equal
          · exact Or.inr (List.mem_cons_of_mem _ inRest)
        · rcases List.mem_cons.mp member with equal | inRest
          · exact Or.inr (by simp [equal])
          · rcases ih inRest with equal | old
            · exact Or.inl equal
            · exact Or.inr (List.mem_cons_of_mem _ old)

theorem insertEntry_ordered {path : String} {value : α} {entries : List (String × α)}
    (ordered : entries.Pairwise fun a b => a.1 < b.1) :
    (insertEntry path value entries).Pairwise fun a b => a.1 < b.1 := by
  induction entries with
  | nil => simp [insertEntry]
  | cons first rest ih =>
      obtain ⟨before, restOrdered⟩ := List.pairwise_cons.mp ordered
      simp only [insertEntry]
      split
      next less =>
        refine List.pairwise_cons.mpr ⟨?_, ordered⟩
        intro entry member
        rcases List.mem_cons.mp member with equal | inRest
        · simpa [equal] using less
        · exact String.lt_trans less (before entry inRest)
      next notLess =>
        split
        next equal =>
          refine List.pairwise_cons.mpr ⟨?_, restOrdered⟩
          intro entry member
          simpa [equal] using before entry member
        next different =>
          refine List.pairwise_cons.mpr ⟨?_, ih restOrdered⟩
          intro entry member
          rcases mem_insertEntry member with equal | old
          · have reached : first.1 ≤ path := String.not_lt.mp notLess
            rw [equal]
            exact String.not_le.mp fun back => different (String.le_antisymm back reached)
          · exact before entry old

def insert (map : PathMap α) (path : String) (value : α) : PathMap α :=
  ⟨insertEntry path value map.entries, insertEntry_ordered map.ordered⟩

/-- The map of the given entries, of which a later one replaces an earlier one with its path. -/
def ofList (entries : List (String × α)) : PathMap α :=
  entries.foldl (fun map entry => map.insert entry.1 entry.2) empty

end PathMap

end StrategyDesk
