import StrategyDesk.Analysis.Finding
import StrategyDesk.Sandbox.FileSystem

/-!
# Analysis services

The analysis behind a sandbox is exchangeable. A service answers questions about the file at a path,
given the files of the sandbox.
-/

set_option autoImplicit false

namespace StrategyDesk

structure Answers where
  completions : Nat → List Completion
  quickInfo? : Nat → Option QuickInfo

def Answers.silent : Answers := ⟨fun _ => [], fun _ => none⟩

structure Service where
  syntactic : FileSystem → String → List Finding
  semantic : FileSystem → String → List Finding
  answers : FileSystem → String → Answers

namespace Service

/-- The service that reports the same findings for every file, and answers nothing. -/
def reporting (findings : List Finding) : Service :=
  ⟨fun _ _ => findings, fun _ _ => [], fun _ _ => .silent⟩

end Service

end StrategyDesk
