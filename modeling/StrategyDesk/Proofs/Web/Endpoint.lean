import StrategyDesk.Backtest
import StrategyDesk.Web.Domain
import StrategyDesk.Proofs.Web.AbsolutePath

/-!
# Endpoints of the backtest service

A service is made from every text that reads as an address. Its endpoints can be formed unless the
path of that address is plain text, as that of a host and a service number without a scheme. Such an
address is not refused when the service is made: each of its requests fails later.
-/

set_option autoImplicit false

namespace StrategyDesk

namespace Web

variable {ascii? : List Nat → Option Text}

/-! ## Addresses whose path is plain text -/

end Web

namespace Backtest

open Web

variable {ascii? : List Nat → Option Text}

/-- An address with the path of an endpoint in the place of its own, behind the drive of a file. -/
def atEndpoint (base : Url) (name : String) : Url :=
  { base with
    path := .segments (base.drive ++ ["backtest".toList, name.toList])
    query := none
    fragment := none }

theorem atPath_endpoint {base : Url} {items : List Text} (path : base.path = .segments items)
    {name : String} (isWord : IsWord name.toList) :
    base.atPath s!"backtest/{name}".toList = .ok (atEndpoint base name) := by
  have written : s!"backtest/{name}".toList = pathOf ["backtest".toList, name.toList] := by
    rw [pathOf, List.intercalate_cons_cons, List.intercalate_singleton]
    exact String.toList_append
  have areWords : ∀ word ∈ ["backtest".toList, name.toList], IsWord word := by
    simp only [List.mem_cons, List.not_mem_nil, or_false]
    rintro word (rfl | rfl)
    · decide
    · exact isWord
  rw [written, Url.atPath_pathOf path (List.cons_ne_nil _ _) areWords, atEndpoint]

/-- The request by which a content is validated at an address: it is posted, the endpoint takes the
place of the path, and the user and the password do not stay. -/
def validation (base : Url) (content : Text) : Request where
  method := .post
  url := { base with
    username := []
    password := []
    path := .segments ["backtest".toList, "parse".toList]
    query := none
    fragment := none }
  payload := some (.object [("content", .string (String.ofList content))])

theorem drive_of_web {base : Url}
    (web : String.ofList base.scheme = "http" ∨ String.ofList base.scheme = "https") :
    base.drive = [] := by
  have notFile : schemeKind base.scheme ≠ .file := by
    unfold schemeKind
    rcases web with same | same <;> rw [same] <;> decide
  unfold Url.drive
  split
  · rfl
  · exact if_neg fun file => notFile file.1

theorem parseRequest_eq {service : Backtest} {content : Text} {request : Request}
    (formed : service.parseRequest content = .ok request) :
    request = validation service.base content := by
  unfold parseRequest endpoint at formed
  cases path : service.base.path with
  | plain front =>
      rw [Url.atPath, path] at formed
      cases formed
  | segments items =>
      rw [atPath_endpoint path (by decide)] at formed
      simp only [bind, Except.bind, Web.request] at formed
      split at formed
      next web =>
        cases formed
        have drive : service.base.drive = [] := drive_of_web web
        simp [validation, atEndpoint, drive]
      · cases formed

theorem parse_of_ofAddress {client : Except String Unit} {address : String} {service : Backtest}
    (made : ofAddress ascii? client address = .ok service) :
    Url.parse ascii? address.toList = .ok service.base := by
  unfold ofAddress at made
  split at made
  · cases made
  next base read =>
    cases client with
    | error reason => cases made
    | ok =>
        cases made
        exact read

example : ((ofAddress asciiDomain? (.ok ()) "file:///C:/files?version=1").bind
    (·.endpoint "parse")).map (String.ofList ·.toText) = .ok "file:///C:/backtest/parse" := by
  decide +kernel

end Backtest

end StrategyDesk
