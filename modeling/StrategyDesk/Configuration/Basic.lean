import StrategyDesk.Configuration.Reading
import StrategyDesk.Session

/-!
# The configuration

What can be set from outside: where the services are, how long to wait for them, what the editor
shows and protects, and what the program notes down. Every field must be set; first all fields that
are set are read, and then the first one that is missing is reported.
-/

set_option autoImplicit false

namespace StrategyDesk

structure ApiConfiguration where
  baseUrl : String
  requestTimeout : Nat
deriving DecidableEq, Repr

structure ValidationConfiguration where
  debounce : Nat
deriving DecidableEq, Repr

structure EditorConfiguration where
  documentPath : String
  protectedLines : Nat
  styledLines : List Nat
deriving DecidableEq, Repr

structure SandboxConfiguration where
  target : String
  declarationVersion : String
  cdnAddress : String
  /-- The names of the declaration files; none means those of the language level. -/
  libraries : List String
deriving DecidableEq, Repr

structure LoggingConfiguration where
  filter : String
  json : Bool
deriving DecidableEq, Repr

structure Configuration where
  api : ApiConfiguration
  validation : ValidationConfiguration
  editor : EditorConfiguration
  sandbox : SandboxConfiguration
  logging : LoggingConfiguration
deriving DecidableEq, Repr

open Setting

def ApiConfiguration.read (setting : Setting) : Except Misfit ApiConfiguration := do
  let record ← setting.toRecord "ApiConfig" ["base_url", "request_timeout_ms"]
  let baseUrl ← record.field? toText "base_url"
  let requestTimeout ← record.field? toNatural "request_timeout_ms"
  pure ⟨← record.require "base_url" baseUrl, ← record.require "request_timeout_ms" requestTimeout⟩

def ValidationConfiguration.read (setting : Setting) : Except Misfit ValidationConfiguration := do
  let record ← setting.toRecord "ValidationConfig" ["debounce_ms"]
  let debounce ← record.field? toNatural "debounce_ms"
  pure ⟨← record.require "debounce_ms" debounce⟩

def EditorConfiguration.read (setting : Setting) : Except Misfit EditorConfiguration := do
  let record ←
    setting.toRecord "EditorSettings" ["document_path", "protected_lines", "styled_lines"]
  let documentPath ← record.field? toText "document_path"
  let protectedLines ← record.field? toNatural "protected_lines"
  let styledLines ← record.field? (toList toNatural) "styled_lines"
  pure ⟨← record.require "document_path" documentPath,
    ← record.require "protected_lines" protectedLines, ← record.require "styled_lines" styledLines⟩

def SandboxConfiguration.read (setting : Setting) : Except Misfit SandboxConfiguration := do
  let record ←
    setting.toRecord "SandboxSettings" ["target", "declaration_version", "cdn_prefix", "lib_files"]
  let target ← record.field? toText "target"
  let declarationVersion ← record.field? toText "declaration_version"
  let cdnAddress ← record.field? toText "cdn_prefix"
  let libraries ← record.field? (toList toText) "lib_files"
  pure ⟨← record.require "target" target, ← record.require "declaration_version" declarationVersion,
    ← record.require "cdn_prefix" cdnAddress, ← record.require "lib_files" libraries⟩

def LoggingConfiguration.read (setting : Setting) : Except Misfit LoggingConfiguration := do
  let record ← setting.toRecord "LoggingConfig" ["filter", "json"]
  let filter ← record.field? toText "filter"
  let json ← record.field? toFlag "json"
  pure ⟨← record.require "filter" filter, ← record.require "json" json⟩

namespace Configuration

def read (setting : Setting) : Except Misfit Configuration := do
  let record ← setting.toRecord "EditorConfig" ["api", "validation", "editor", "sandbox", "logging"]
  let api ← record.field? ApiConfiguration.read "api"
  let validation ← record.field? ValidationConfiguration.read "validation"
  let editor ← record.field? EditorConfiguration.read "editor"
  let sandbox ← record.field? SandboxConfiguration.read "sandbox"
  let logging ← record.field? LoggingConfiguration.read "logging"
  pure ⟨← record.require "api" api, ← record.require "validation" validation,
    ← record.require "editor" editor, ← record.require "sandbox" sandbox,
    ← record.require "logging" logging⟩

def standard : Configuration where
  api := ⟨"http://localhost:8080", 10000⟩
  validation := ⟨500⟩
  editor := ⟨"/index.ts", 2, [1, 2]⟩
  sandbox :=
    ⟨"ES2015", "3.7.3", "https://playgroundcdn.typescriptlang.org/cdn",
      ["lib.d.ts", "lib.es5.d.ts", "lib.es2015.d.ts", "lib.es2015.core.d.ts",
       "lib.es2015.collection.d.ts", "lib.es2015.generator.d.ts", "lib.es2015.iterable.d.ts",
       "lib.es2015.promise.d.ts", "lib.es2015.proxy.d.ts", "lib.es2015.reflect.d.ts",
       "lib.es2015.symbol.d.ts", "lib.es2015.symbol.wellknown.d.ts", "lib.dom.d.ts"]⟩
  logging := ⟨"info,strategy_editor=debug", false⟩

def sessionSettings (configuration : Configuration) : SessionSettings :=
  ⟨configuration.editor.documentPath, configuration.validation.debounce,
    configuration.editor.protectedLines, configuration.editor.styledLines⟩

end Configuration

end StrategyDesk
