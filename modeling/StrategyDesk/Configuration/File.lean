import StrategyDesk.Configuration.Basic

/-!
# Configurations as files

How a configuration is written as a file of settings. The file of defaults that the program is
delivered with is the standard configuration written so.
-/

set_option autoImplicit false

namespace StrategyDesk.Configuration

/-- A text between double quotes, with the escapes of settings files. -/
def quoted (text : String) : String :=
  let escape (c : Char) : List Char := if c = '"' ∨ c = '\\' then ['\\', c] else [c]
  String.ofList ('"' :: (text.toList.flatMap escape ++ ['"']))

def bracketed (items : List String) : String :=
  "[" ++ String.intercalate ", " items ++ "]"

def fileLines (configuration : Configuration) : List String :=
  ["[api]",
   s!"base_url = {quoted configuration.api.baseUrl}",
   s!"request_timeout_ms = {configuration.api.requestTimeout}",
   "",
   "[validation]",
   s!"debounce_ms = {configuration.validation.debounce}",
   "",
   "[editor]",
   s!"document_path = {quoted configuration.editor.documentPath}",
   s!"protected_lines = {configuration.editor.protectedLines}",
   s!"styled_lines = {bracketed (configuration.editor.styledLines.map toString)}",
   "",
   "[sandbox]",
   s!"target = {quoted configuration.sandbox.target}",
   s!"declaration_version = {quoted configuration.sandbox.declarationVersion}",
   s!"cdn_prefix = {quoted configuration.sandbox.cdnAddress}",
   s!"lib_files = {bracketed (configuration.sandbox.libraries.map quoted)}",
   "",
   "[logging]",
   s!"filter = {quoted configuration.logging.filter}",
   s!"json = {configuration.logging.json}"]

def toFile (configuration : Configuration) : Text :=
  (configuration.fileLines.flatMap fun line => line.toList ++ ['\n'])

end StrategyDesk.Configuration
