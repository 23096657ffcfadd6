import StrategyDesk.Number.Double
import StrategyDesk.Text.Lower

/-!
# Settings

What the sources of a configuration hold: scalars, lists and tables, each with the name of the
source it came from. Sources are laid over each other: a later one replaces scalars and lists, and
its tables are laid over the tables that are there.
-/

set_option autoImplicit false

namespace StrategyDesk

/-- A setting that is neither a list nor a table. -/
inductive Scalar where
  | nothing
  | flag (value : Bool)
  | integer (value : Int)
  | decimal (value : Double)
  | text (value : String)
deriving DecidableEq, Repr

/-- A setting, with its source. What no source wrote itself has none. -/
inductive Setting where
  | scalar (source : Option String) (value : Scalar)
  | list (source : Option String) (items : List Setting)
  | table (source : Option String) (entries : List (String × Setting))
deriving Repr, Inhabited

namespace Setting

def nothing : Setting := .scalar none .nothing

def emptyTable : Setting := .table none []

/-- The setting, if it is a table, and otherwise an empty table in its place. -/
def asTable : Setting → Setting
  | table source entries => table source entries
  | _ => emptyTable

/-- The entry of a table. Settings that are no tables have none. -/
def find? (name : String) : Setting → Option Setting
  | table _ entries => entries.lookup name
  | _ => none

/-- The entries with the given one put in place of the one of that name, or at the end. -/
def putEntry (name : String) (value : Setting) : List (String × Setting) → List (String × Setting)
  | [] => [(name, value)]
  | (other, old) :: rest =>
      if other = name then (name, value) :: rest else (other, old) :: putEntry name value rest

/-- The table with the given entry. A setting that is no table gives way to one. -/
def put (target : Setting) (name : String) (value : Setting) : Setting :=
  match target with
  | table source entries => table source (putEntry name value entries)
  | _ => table none [(name, value)]

/-- A name as tables hold it: in small letters. -/
def folded (name : String) : String := String.ofList (Text.lower name.toList)

mutual

def assign (incoming : Setting) (name : String) (target : Setting) : Setting :=
  match incoming with
  | table _ entries =>
      let below := ((asTable target).find? (folded name)).getD emptyTable
      target.put (folded name) (assignAll entries below)
  | other => target.put (folded name) other

def assignAll (incoming : List (String × Setting)) (target : Setting) : Setting :=
  match incoming with
  | [] => target
  | (name, value) :: rest => assignAll rest (assign value name target)

end

end Setting

end StrategyDesk
