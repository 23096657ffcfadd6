import StrategyDesk.Sandbox.FileSystem
import StrategyDesk.Sandbox.Target
import StrategyDesk.Web.Exchange

/-!
# Declaration files from a server

The declaration files of the language as a server keeps them, by version. A snapshot is the files
that are asked for, or those of the language level if none are; if one of them is missing there is
no snapshot.
-/

set_option autoImplicit false

namespace StrategyDesk

structure DeclarationServer where
  address : Text
  version : String
  /-- The files to get. None means those of the language level. -/
  libraries : List String
deriving DecidableEq, Repr

/-- How it goes when all files are asked for at once. -/
structure Download where
  network : Nat → Web.Network
  /-- Which of the requests that fail is noticed first. -/
  earliest : Nat
  arrangement : Arrangement

def Download.over (network : Web.Network) : Download := ⟨fun _ => network, 0, .byPath⟩

namespace DeclarationServer

def ofAddress (address version : String) (libraries : List String) : DeclarationServer :=
  ⟨(address.toList.reverse.dropWhile fun c => c == '/').reverse, version, libraries⟩

def fileAddress (server : DeclarationServer) (file : String) : Text :=
  server.address ++ s!"/{server.version}/typescript/lib/{file}".toList

def fetch (server : DeclarationServer) (ascii? : List Nat → Option Text) (network : Web.Network)
    (file : String) : Except Failure (String × Text) :=
  let address := server.fileAddress file
  let failed (reason : String) : Failure := .declarationLoad s!"{String.ofList address}: {reason}"
  match Web.get ascii? network address with
  | .error reason => .error (failed reason)
  | .ok response =>
      if Web.isSuccess response.status then
        match response.body with
        | .ok bytes => .ok ("/" ++ file, Web.lossyText bytes)
        | .error reason => .error (failed reason)
      else .error (failed s!"HTTP {Web.statusText response.status}")

def files (server : DeclarationServer) (target : Target) : List String :=
  if server.libraries = [] then target.libraries else server.libraries

def fetchAll (server : DeclarationServer) (ascii? : List Nat → Option Text) (download : Download)
    (files : List String) : Except Failure (List (String × Text)) :=
  let fetched := files.mapIdx fun place file => server.fetch ascii? (download.network place) file
  let failures := fetched.filterMap fun result =>
    match result with
    | .ok _ => none
    | .error failure => some failure
  match failures with
  | [] => .ok (fetched.filterMap Except.toOption)
  | first :: _ => .error (failures[download.earliest]?.getD first)

def load (server : DeclarationServer) (ascii? : List Nat → Option Text) (download : Download)
    (options : CompilerOptions) : Except Failure Snapshot :=
  (server.fetchAll ascii? download (server.files options.target)).map
    (Snapshot.collect download.arrangement)

end DeclarationServer

end StrategyDesk
