import StrategyDesk.Json.Reader
import StrategyDesk.Json.Wire
import StrategyDesk.Validation.Pipeline
import StrategyDesk.Web.Exchange

/-!
# The backtest service

The service that validates strategies and lists the instruments. Its paths are absolute: they take
the place of any path in the address that is configured. An answer of success accepts a strategy,
and a certain status with a readable body rejects it; every other answer says nothing about it.
-/

set_option autoImplicit false

namespace StrategyDesk

structure Backtest where
  base : Web.Url
deriving DecidableEq, Repr

namespace Backtest

/-- The service at an address. `client` is what came of setting up the exchanges with servers. -/
def ofAddress (ascii? : List Nat → Option Text) (client : Except String Unit) (address : String) :
    Except Failure Backtest :=
  match Web.Url.parse ascii? address.toList with
  | .error fault => .error (.internal s!"invalid API base URL '{address}': {fault.message}")
  | .ok base =>
      match client with
      | .error reason => .error (.transport none s!"failed to build HTTP client: {reason}")
      | .ok () => .ok ⟨base⟩

def endpoint (service : Backtest) (name : String) : Except Failure Web.Url :=
  match service.base.atPath s!"backtest/{name}".toList with
  | .ok url => .ok url
  | .error fault => .error (.internal s!"invalid endpoint '/backtest/{name}': {fault.message}")

def rejectionStatus : Nat := 422

def rejection? (bytes : List Nat) : Option Rejection := do
  let .parserError rejection ← ErrorBody.ofJson? (← Json.readBytes? bytes)
  pure rejection

def judge (response : Web.Response) : Except Failure Outcome :=
  if Web.isSuccess response.status then .ok .success
  else if response.status = rejectionStatus then
    match response.body with
    | .error reason => .error (.transport none reason)
    | .ok bytes =>
        match rejection? bytes with
        | some rejection => .ok (.rejected rejection)
        | none => .ok (.unexpected response.status)
  else .ok (.unexpected response.status)

def parseRequest (service : Backtest) (content : Text) : Except Failure Web.Request := do
  let url ← service.endpoint "parse"
  let payload := Json.object [("content", .string (String.ofList content))]
  (Web.request .post url (some payload)).mapError (.transport none)

/-- The answer of the service to a strategy, or why there is none. -/
def exchange (service : Backtest) (network : Web.Network) (content : Text) :
    Except Failure Web.Response := do
  (network (← service.parseRequest content)).mapError (.transport none)

def validate (service : Backtest) (network : Web.Network) (content : Text) :
    Except Failure Outcome := do
  judge (← service.exchange network content)

def listing (response : Web.Response) : Except Failure (List Instrument) :=
  if Web.isSuccess response.status then
    let read? := do Instrument.listOfJson? (← Json.readBytes? (← response.body.toOption))
    match read? with
    | some instruments => .ok instruments
    | none => .error (.transport none "invalid universe payload: error decoding response body")
  else .error (.transport (some response.status) "universe request failed")

def universeRequest (service : Backtest) : Except Failure Web.Request := do
  let url ← service.endpoint "universe"
  (Web.request .get url none).mapError (.transport none)

def instruments (service : Backtest) (network : Web.Network) :
    Except Failure (List Instrument) := do
  listing (← (network (← service.universeRequest)).mapError (.transport none))

end Backtest

end StrategyDesk
