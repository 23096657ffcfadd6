import StrategyDesk.Check
import StrategyDesk.Web.Domain

/-!
# The program

What the program reads and prints. This build has no network: every server counts as out of reach.
Nothing is noted down, and of the names of hosts only what is common is brought into ASCII.
-/

set_option autoImplicit false

namespace StrategyDesk.Program

def reasonOf : IO.Error → String
  | .noFileOrDirectory .. => "No such file or directory (os error 2)"
  | .permissionDenied .. => "Permission denied (os error 13)"
  | .inappropriateType .. => "Is a directory (os error 21)"
  | fault => toString fault

def readText (path : String) : IO (Except String Text) := do
  try
    let bytes ← IO.FS.readBinFile path
    match Web.utf8Text? (bytes.toList.map UInt8.toNat) with
    | some text => return .ok text
    | none => return .error "stream did not contain valid UTF-8"
  catch fault => return .error (reasonOf fault)

def variableOf (entry : Text) : String × String :=
  let (name, value) := Web.spanUntil (· == '=') entry
  (String.ofList name, String.ofList (value.drop 1))

def readVariables : IO (List (String × String)) := do
  match ← readText "/proc/self/environ" with
  | .ok text =>
      let entries := (text.splitOn '\x00').filter fun entry => !entry.isEmpty
      return entries.map variableOf
  | .error _ => return []

def readSurroundings (arguments : List String) : IO Surroundings := do
  let environment ← readVariables
  let files ← (Check.neededFiles environment arguments).mapM fun path => do
    return (path, ← readText path)
  return ⟨fun path => (files.lookup path).getD (.error "not read"), environment⟩

def platform : Platform where
  ascii? := Web.asciiDomain?
  readFilter _ := .ok ()
  notes := .ok ()
  client := .ok ()

def deathStatus : UInt32 := 101

def run (arguments : List String) : IO UInt32 := do
  let surroundings ← readSurroundings arguments
  let loaded := Configuration.load surroundings
  match Check.report platform loaded surroundings arguments .unreachable with
  | none => return deathStatus
  | some report =>
      IO.eprint (Report.joined report.complaints)
      IO.print (Report.joined report.output)
      return UInt32.ofNat report.exitStatus

end StrategyDesk.Program

def main (arguments : List String) : IO UInt32 := StrategyDesk.Program.run arguments
