import StrategyDesk.Sandbox.PathMap
import StrategyDesk.Text.Basic

/-!
# The files of a sandbox

A sandbox sees the declaration files that all sandboxes share, and over them files of its own. A
file of its own hides a shared file with its path, and counts how often it was written.
-/

set_option autoImplicit false

namespace StrategyDesk

/-- The shared declaration files, each path once. They come in an order that their paths do not
settle: that of a hash table. -/
structure Snapshot where
  entries : List (String × Text)
  distinct : entries.Pairwise fun a b => a.1 ≠ b.1

/-- An order in which a hash table may give its entries. -/
structure Arrangement where
  arrange : List (String × Text) → List (String × Text)
  perm : ∀ entries, (arrange entries).Perm entries

def Arrangement.byPath : Arrangement := ⟨id, fun entries => .refl entries⟩

namespace Snapshot

def empty : Snapshot := ⟨[], .nil⟩

instance : Inhabited Snapshot := ⟨empty⟩

def find? (snapshot : Snapshot) (path : String) : Option Text :=
  (snapshot.entries.find? fun entry => entry.1 == path).map Prod.snd

/-- Collects files, of which a later one replaces an earlier one with its path. -/
def collect (arrangement : Arrangement) (files : List (String × Text)) : Snapshot :=
  let map := PathMap.ofList files
  ⟨arrangement.arrange map.entries,
    (arrangement.perm map.entries).symm.pairwise
      (map.ordered.imp fun less => String.ne_of_lt less) fun different => different.symm⟩

def ofList (files : List (String × Text)) : Snapshot := collect .byPath files

end Snapshot

structure OwnFile where
  content : Text
  /-- The number of times the file was written, as a word of 32 bits. -/
  version : UInt32
deriving DecidableEq, Repr

inductive FileChange where
  | created
  | updated
deriving DecidableEq, Repr

/-- The files of one sandbox over the shared ones. -/
structure FileSystem where
  snapshot : Snapshot
  own : PathMap OwnFile

namespace FileSystem

def onSnapshot (snapshot : Snapshot) : FileSystem := ⟨snapshot, .empty⟩

def read? (files : FileSystem) (path : String) : Option Text :=
  match files.own.find? path with
  | some file => some file.content
  | none => files.snapshot.find? path

def exists? (files : FileSystem) (path : String) : Bool := (files.read? path).isSome

def file? (files : FileSystem) (path : String) : Option OwnFile := files.own.find? path

def write (files : FileSystem) (path : String) (content : Text) : FileSystem × FileChange :=
  match files.own.find? path with
  | some file =>
      ({ files with own := files.own.insert path ⟨content, file.version + 1⟩ }, .updated)
  | none => ({ files with own := files.own.insert path ⟨content, 1⟩ }, .created)

/-- Every file that can be read, with its content: the sandbox's own files, then the shared files
that these do not hide. -/
def sources (files : FileSystem) : List (String × Text) :=
  (files.own.entries.map fun (path, file) => (path, file.content)) ++
    files.snapshot.entries.filter fun entry => !files.own.contains entry.1

end FileSystem

end StrategyDesk
