import StrategyDesk.Json.Printer
import StrategyDesk.Web.Url

/-!
# Exchanges with servers

A network, as a function from requests to answers. What a program makes of the network is then plain
to see, and the network itself stays outside.
-/

set_option autoImplicit false

namespace StrategyDesk.Web

inductive Method where
  | get
  | post
deriving DecidableEq, Repr

structure Request where
  method : Method
  url : Url
  payload : Option Json

structure Response where
  status : Nat
  body : Except String (List Nat)

/-- A network: for each request the answer, or why there is none. -/
abbrev Network := Request → Except String Response

def unreachable : Network := fun request =>
  .error s!"error sending request for url ({String.ofList request.url.toText})"

/-- The request for an address, if it is one of the web. The user and the password do not stay in the
address. -/
def request (method : Method) (url : Url) (payload : Option Json) : Except String Request :=
  let scheme := String.ofList url.scheme
  if scheme = "http" ∨ scheme = "https" then
    .ok ⟨method, { url with username := [], password := [] }, payload⟩
  else .error s!"builder error for url ({String.ofList url.toText})"

def get (ascii? : List Nat → Option Text) (network : Network) (address : Text) :
    Except String Response :=
  match Url.parse ascii? address with
  | .ok url => do network (← request .get url none)
  | .error _ => .error "builder error"

def isSuccess (status : Nat) : Bool := 200 ≤ status && status < 300

def phrases : List (Nat × String) :=
  [(100, "Continue"), (101, "Switching Protocols"), (102, "Processing"), (200, "OK"),
   (201, "Created"), (202, "Accepted"), (203, "Non Authoritative Information"),
   (204, "No Content"), (205, "Reset Content"), (206, "Partial Content"), (207, "Multi-Status"),
   (208, "Already Reported"), (226, "IM Used"), (300, "Multiple Choices"),
   (301, "Moved Permanently"), (302, "Found"), (303, "See Other"), (304, "Not Modified"),
   (305, "Use Proxy"), (307, "Temporary Redirect"), (308, "Permanent Redirect"),
   (400, "Bad Request"), (401, "Unauthorized"), (402, "Payment Required"), (403, "Forbidden"),
   (404, "Not Found"), (405, "Method Not Allowed"), (406, "Not Acceptable"),
   (407, "Proxy Authentication Required"), (408, "Request Timeout"), (409, "Conflict"),
   (410, "Gone"), (411, "Length Required"), (412, "Precondition Failed"),
   (413, "Payload Too Large"), (414, "URI Too Long"), (415, "Unsupported Media Type"),
   (416, "Range Not Satisfiable"), (417, "Expectation Failed"), (418, "I'm a teapot"),
   (421, "Misdirected Request"), (422, "Unprocessable Entity"), (423, "Locked"),
   (424, "Failed Dependency"), (425, "Too Early"), (426, "Upgrade Required"),
   (428, "Precondition Required"), (429, "Too Many Requests"),
   (431, "Request Header Fields Too Large"), (451, "Unavailable For Legal Reasons"),
   (500, "Internal Server Error"), (501, "Not Implemented"), (502, "Bad Gateway"),
   (503, "Service Unavailable"), (504, "Gateway Timeout"), (505, "HTTP Version Not Supported"),
   (506, "Variant Also Negotiates"), (507, "Insufficient Storage"), (508, "Loop Detected"),
   (510, "Not Extended"), (511, "Network Authentication Required")]

def statusText (status : Nat) : String :=
  let phrase := (phrases.lookup status).getD "<unknown status code>"
  s!"{status} {phrase}"

end StrategyDesk.Web
