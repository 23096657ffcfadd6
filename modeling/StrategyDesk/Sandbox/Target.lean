import StrategyDesk.Failure

/-!
# Language levels

A sandbox checks a strategy against a level of the language. Each level brings the declaration
files of the levels below it and its own.
-/

set_option autoImplicit false

namespace StrategyDesk

inductive Target where
  | es5
  | es2015
  | es2017
  | esNext
deriving DecidableEq, Repr

structure CompilerOptions where
  target : Target
deriving DecidableEq, Repr

namespace Target

/-- The level that a name stands for, capital letters or not. -/
def parse (name : String) : Except Failure Target :=
  let lower := String.ofList (name.toList.map Char.toLower)
  if lower = "es5" then .ok .es5
  else if lower = "es2015" ∨ lower = "es6" then .ok .es2015
  else if lower = "es2017" then .ok .es2017
  else if lower = "esnext" then .ok .esNext
  else .error (.sandbox s!"unknown script target '{lower}'")

def baseLibraries : List String :=
  ["lib.d.ts", "lib.es5.d.ts", "lib.dom.d.ts", "lib.dom.iterable.d.ts",
   "lib.webworker.importscripts.d.ts", "lib.scripthost.d.ts"]

def libraries2015 : List String :=
  ["lib.es2015.d.ts", "lib.es2015.core.d.ts", "lib.es2015.collection.d.ts",
   "lib.es2015.generator.d.ts", "lib.es2015.iterable.d.ts", "lib.es2015.promise.d.ts",
   "lib.es2015.proxy.d.ts", "lib.es2015.reflect.d.ts", "lib.es2015.symbol.d.ts",
   "lib.es2015.symbol.wellknown.d.ts"]

def libraries2017 : List String :=
  ["lib.es2016.d.ts", "lib.es2016.array.include.d.ts", "lib.es2017.d.ts",
   "lib.es2017.object.d.ts", "lib.es2017.string.d.ts", "lib.es2017.intl.d.ts"]

def libraries : Target → List String
  | es5 => baseLibraries
  | es2015 => baseLibraries ++ libraries2015
  | es2017 | esNext => baseLibraries ++ libraries2015 ++ libraries2017

end Target

end StrategyDesk
