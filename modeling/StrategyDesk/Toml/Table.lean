import StrategyDesk.Configuration.Setting

/-!
# Tables in the making

The tables of a TOML document while it is read. A name is given a value once, and a table is opened
by one header or by dotted names, not by both; the marks of the tables keep that. A list of tables
is extended by each of its headers, and everything below such a header is about the last table.
-/

set_option autoImplicit false

namespace StrategyDesk.Toml

/-- What a name stands for. -/
inductive Node where
  | value (setting : Setting)
  /-- A table, whether it was made on the way to another one, and whether by dotted names. -/
  | table (implicit dotted : Bool) (entries : List (String × Node))
  | tables (items : List (List (String × Node)))
deriving Inhabited

abbrev Entries := List (String × Node)

namespace Entries

/-- The entries with the node in place of the one of that name, or at the end. -/
def put (name : String) (node : Node) : Entries → Entries
  | [] => [(name, node)]
  | (other, old) :: rest =>
      if other = name then (name, node) :: rest else (other, old) :: put name node rest

/-- Changes the table at a path, which is made if need be. On the way lists of tables stand for
their last table. The change learns whether the table was made by dotted names. -/
def changeAt (dotted : Bool) (change : Bool → Entries → Option Entries) :
    List String → Bool → Entries → Option Entries
  | [], wasDotted, entries => change wasDotted entries
  | name :: path, _, entries =>
      match entries.lookup name with
      | none => do
          let below ← changeAt dotted change path dotted []
          pure (entries.put name (.table true dotted below))
      | some (.value _) => none
      | some (.table implicit wasDotted below) =>
          if dotted ∧ ¬implicit then none
          else do
            let below ← changeAt dotted change path wasDotted below
            pure (entries.put name (.table implicit wasDotted below))
      | some (.tables items) => do
          let last ← changeAt dotted change path false (items.getLast?.getD [])
          pure (entries.put name (.tables (items.dropLast ++ [last])))

def define (path : List String) (name : String) (value : Setting) (entries : Entries) :
    Option Entries :=
  let give (wasDotted : Bool) (entries : Entries) : Option Entries :=
    if wasDotted = path.isEmpty ∨ (entries.lookup name).isSome then none
    else some (entries ++ [(name, .value value)])
  changeAt true give path false entries

/-- Opens the table of a header. It must not have been opened before. -/
def openTable (path : List String) (name : String) (entries : Entries) : Option Entries :=
  let opened (_ : Bool) (entries : Entries) : Option Entries :=
    match entries.lookup name with
    | none => some (entries.put name (.table false false []))
    | some (.table true false below) => some (entries.put name (.table false false below))
    | _ => none
  changeAt false opened path false entries

def extendTables (path : List String) (name : String) (entries : Entries) : Option Entries :=
  let extended (_ : Bool) (entries : Entries) : Option Entries :=
    match entries.lookup name with
    | none => some (entries.put name (.tables [[]]))
    | some (.tables items) => some (entries.put name (.tables (items ++ [[]])))
    | _ => none
  changeAt false extended path false entries

end Entries

mutual

def Node.setting (source : String) : Node → Setting
  | .value setting => setting
  | .table _ _ entries => .table (some source) (settingsOf source entries)
  | .tables items => .list (some source) (tablesOf source items)

def settingsOf (source : String) : List (String × Node) → List (String × Setting)
  | [] => []
  | (name, node) :: rest => (name, node.setting source) :: settingsOf source rest

def tablesOf (source : String) : List (List (String × Node)) → List Setting
  | [] => []
  | entries :: rest => .table (some source) (settingsOf source entries) :: tablesOf source rest

end

end StrategyDesk.Toml
