import StrategyDesk.Web.Address
import StrategyDesk.Web.Percent

/-!
# Addresses of the web

Addresses as they are read from a text and written again in their normal form. The schemes of the
web have a host, a usual service number and a path of segments; other schemes may have a path that
is plain text, and then no path can take its place. How the name of a host is brought into ASCII is
left open: the reader is given a function that does so.
-/

set_option autoImplicit false

namespace StrategyDesk.Web

inductive UrlFault where
  | emptyHost
  | invalidDomain
  | invalidService
  | invalidIpv4
  | invalidIpv6
  | invalidHostCharacter
  | noBase
  | plainBase
deriving DecidableEq, Repr

def UrlFault.message : UrlFault → String
  | emptyHost => "empty host"
  | invalidDomain => "invalid international domain name"
  | invalidService => "invalid port number"
  | invalidIpv4 => "invalid IPv4 address"
  | invalidIpv6 => "invalid IPv6 address"
  | invalidHostCharacter => "invalid domain character"
  | noBase => "relative URL without a base"
  | plainBase => "relative URL with a cannot-be-a-base base"

inductive Host where
  | name (text : Text)
  | ipv4 (address : Nat)
  | ipv6 (pieces : List Nat)
deriving DecidableEq, Repr

inductive UrlPath where
  | plain (text : Text)
  | segments (items : List Text)
deriving DecidableEq, Repr

structure Url where
  scheme : Text
  username : Text
  password : Text
  /-- The host, which an address may lack; for files it may be there without a name. -/
  host : Option Host
  /-- The number of the service on the host, if it is not the usual one of the scheme. -/
  service : Option Nat
  path : UrlPath
  query : Option Text
  fragment : Option Text
deriving DecidableEq, Repr

inductive SchemeKind where
  | web (service : Nat)
  | file
  | other
deriving DecidableEq, Repr

def schemeKind (scheme : Text) : SchemeKind :=
  match String.ofList scheme with
  | "http" | "ws" => .web 80
  | "https" | "wss" => .web 443
  | "ftp" => .web 21
  | "file" => .file
  | _ => .other

namespace SchemeKind

/-- Whether backslashes count as slashes, and paths are never empty. -/
def isSpecial : SchemeKind → Bool
  | other => false
  | _ => true

def isSlash (kind : SchemeKind) (c : Char) : Bool := c == '/' || (kind.isSpecial && c == '\\')

end SchemeKind

/-! ## Classes of characters -/

def isFragmentSpecial (c : Char) : Bool := isControl c || [' ', '"', '<', '>', '\x60'].contains c

def isPathSpecial (c : Char) : Bool :=
  isFragmentSpecial c || ['#', '?', '\x7b', '\x7d'].contains c

def isUserSpecial (c : Char) : Bool :=
  isPathSpecial c || ['/', ':', ';', '=', '@', '[', '\\', ']', '^', '|'].contains c

def isQuerySpecial (kind : SchemeKind) (c : Char) : Bool :=
  isControl c || [' ', '"', '#', '<', '>'].contains c || (kind.isSpecial && c == '\'')

def isHostForbidden (c : Char) : Bool :=
  ['\x00', '\t', '\n', '\r', ' ', '#', '/', ':', '<', '>', '?', '@', '[', '\\', ']', '^',
   '|'].contains c

def endsAuthority (kind : SchemeKind) (c : Char) : Bool := kind.isSlash c || c == '?' || c == '#'

/-! ## Writing -/

namespace Host

def toText : Host → Text
  | name text => text
  | ipv4 address => ipv4Text address
  | ipv6 pieces => '[' :: (ipv6Text pieces ++ [']'])

end Host

namespace Url

def credentialsText (url : Url) : Text :=
  if url.username = [] ∧ url.password = [] then []
  else
    let password := if url.password = [] then [] else ':' :: url.password
    url.username ++ password ++ ['@']

/-- The host with what belongs to it, or what keeps a path from being taken for one. -/
def authorityText (url : Url) : Text :=
  match url.host with
  | some host =>
      let service := (url.service.map fun number => ':' :: (toString number).toList).getD []
      ['/', '/'] ++ url.credentialsText ++ host.toText ++ service
  | none =>
      match url.path with
      | .segments ([] :: _ :: _) => ['/', '.']
      | _ => []

def pathText (url : Url) : Text :=
  match url.path with
  | .plain text => text
  | .segments items => items.flatMap ('/' :: ·)

def toText (url : Url) : Text :=
  url.scheme ++ [':'] ++ url.authorityText ++ url.pathText ++
    (url.query.map ('?' :: ·)).getD [] ++ (url.fragment.map ('#' :: ·)).getD []

end Url

/-! ## Reading -/

/-- The part of a text before the first character of a class, and the rest. -/
def spanUntil (ends : Char → Bool) (text : Text) : Text × Text :=
  (text.takeWhile fun c => !ends c, text.dropWhile fun c => !ends c)

def splitAny (separates : Char → Bool) : Text → List Text
  | [] => [[]]
  | c :: rest =>
      if separates c then [] :: splitAny separates rest
      else
        match splitAny separates rest with
        | [] => [[c]]
        | part :: parts => (c :: part) :: parts

/-- The scheme at the front of a text, in small letters, and what follows its colon. -/
def splitScheme? (text : Text) : Option (Text × Text) :=
  let isSchemeChar (c : Char) : Bool := c.isAlphanum || c == '+' || c == '-' || c == '.'
  match text.takeWhile isSchemeChar, text.dropWhile isSchemeChar with
  | first :: scheme, ':' :: rest =>
      if first.isAlpha then some ((first :: scheme).map Char.toLower, rest) else none
  | _, _ => none

/-- The text without controls and spaces at its ends, and without line breaks and tabulators. -/
def tidy (text : Text) : Text :=
  let isOuter (c : Char) : Bool := c.toNat ≤ 0x20
  let trimmed := ((text.dropWhile isOuter).reverse.dropWhile isOuter).reverse
  trimmed.filter fun c => !(c == '\t' || c == '\n' || c == '\r')

def splitTail (kind : SchemeKind) (text : Text) : Text × Option Text × Option Text :=
  let (front, fragment) :=
    match spanUntil (· == '#') text with
    | (front, '#' :: rest) => (front, some (escape isFragmentSpecial rest))
    | (front, _) => (front, none)
  match spanUntil (· == '?') front with
  | (path, '?' :: rest) => (path, some (escape (isQuerySpecial kind) rest), fragment)
  | (path, _) => (path, none, fragment)

def plainDots : Text → Text
  | '%' :: '2' :: e :: rest =>
      if e = 'e' ∨ e = 'E' then '.' :: plainDots rest else '%' :: '2' :: e :: rest
  | '.' :: rest => '.' :: plainDots rest
  | text => text

def isSingleDot (segment : Text) : Bool := plainDots segment == ['.']

def isDoubleDot (segment : Text) : Bool := plainDots segment == ['.', '.']

def isDrive : Text → Bool
  | [letter, sign] => letter.isAlpha && (sign == ':' || sign == '|')
  | _ => false

def isDrivePath : List Text → Bool
  | [[letter, ':']] => letter.isAlpha
  | _ => false

/-- The segments without the last one. A drive of a file stays. -/
def dropSegment (kind : SchemeKind) (segments : List Text) : List Text :=
  if kind = .file ∧ isDrivePath segments then segments else segments.dropLast

def addSegment (kind : SchemeKind) (segments : List Text) (segment : Text) : List Text :=
  if isDoubleDot segment then dropSegment kind segments
  else if isSingleDot segment then segments
  else if kind = .file ∧ segments = [] ∧ isDrive segment then segments ++ [segment.take 1 ++ [':']]
  else segments ++ [segment]

/-- The segments with the last one of a path: dots leave an empty one. -/
def addLastSegment (kind : SchemeKind) (segments : List Text) (segment : Text) : List Text :=
  let added := addSegment kind segments segment
  if isDoubleDot segment ∨ isSingleDot segment then added ++ [[]] else added

def dropEmptyFront : List Text → List Text
  | [] :: next :: rest => dropEmptyFront (next :: rest)
  | segments => segments

def extendPath (kind : SchemeKind) (start : List Text) (path : Text) : List Text :=
  let parts := (splitAny kind.isSlash path).map (escape isPathSpecial)
  let whole :=
    addLastSegment kind (parts.dropLast.foldl (addSegment kind) start) (parts.getLast?.getD [])
  if kind = .file then dropEmptyFront whole else whole

def readPath (kind : SchemeKind) (path : Text) : List Text :=
  match path with
  | [] => if kind.isSpecial then [[]] else []
  | c :: rest => if kind.isSlash c then extendPath kind [] rest else extendPath kind [] path

/-- Reads the name of a host. Its bytes are brought into ASCII by `ascii?`, if they can be. -/
def readDomain (ascii? : List Nat → Option Text) (text : Text) : Except UrlFault Host :=
  match ascii? (unescape text) with
  | none => .error .invalidDomain
  | some [] => .error .emptyHost
  | some domain =>
      if endsInNumber domain then
        match ipv4? domain with
        | some address => .ok (.ipv4 address)
        | none => .error .invalidIpv4
      else .ok (.name domain)

def readHost (otherwise : Text → Except UrlFault Host) (text : Text) : Except UrlFault Host :=
  if text.head? = some '[' then
    match if text.getLast? = some ']' then ipv6? (text.drop 1).dropLast else none with
    | some pieces => .ok (.ipv6 pieces)
    | none => .error .invalidIpv6
  else otherwise text

def readForeignHost (text : Text) : Except UrlFault Host :=
  if text.any isHostForbidden then .error .invalidHostCharacter
  else .ok (.name (escape isControl text))

/-- The host, and what follows the first colon outside of brackets, if there is one. -/
def splitService : Bool → Text → Text × Option Text
  | _, [] => ([], none)
  | inside, c :: rest =>
      if c = ':' ∧ ¬inside then ([], some rest)
      else
        let within := c == '[' || (c != ']' && inside)
        let (host, service) := splitService within rest
        (c :: host, service)

/-- The service number of an address. The usual one of the scheme, and none at all, need not be
written. -/
def readService (kind : SchemeKind) (text : Text) : Except UrlFault (Option Nat) :=
  if !text.all Char.isDigit then .error .invalidService
  else
    let number := Nat.ofDigitChars 10 text 0
    if 65535 < number then .error .invalidService
    else if text = [] ∨ kind = .web number then .ok none
    else .ok (some number)

def readCredentials (text : Text) : Text × Text :=
  match spanUntil (· == ':') text with
  | (user, ':' :: password) => (escape isUserSpecial user, escape isUserSpecial password)
  | (user, _) => (escape isUserSpecial user, [])

/-- What stands before the last at sign, if there is one, and what follows it. -/
def splitCredentials (text : Text) : Option Text × Text :=
  match spanUntil (· == '@') text.reverse with
  | (host, '@' :: credentials) => (some credentials.reverse, host.reverse)
  | _ => (none, text)

def readAuthority (ascii? : List Nat → Option Text) (kind : SchemeKind) (scheme text : Text) :
    Except UrlFault Url := do
  let (authority, tail) := spanUntil (endsAuthority kind) text
  let (credentials?, hostAndService) := splitCredentials authority
  if credentials? = some [] ∧ hostAndService = [] ∧ tail ≠ [] then .error .emptyHost
  let (hostText, service?) := splitService false hostAndService
  if kind.isSpecial ∧ hostText = [] then .error .emptyHost
  let host ←
    if kind.isSpecial then readHost (readDomain ascii?) hostText
    else readHost readForeignHost hostText
  if hostText = [] ∧ service?.isSome then .error .emptyHost
  -- A backslash ends the number under every scheme, and is then part of the path.
  let (number, beyond) := spanUntil (· == '\\') (service?.getD [])
  let service ← readService kind number
  let (username, password) := readCredentials (credentials?.getD [])
  if hostText = [] ∧ (username ≠ [] ∨ password ≠ []) then .error .emptyHost
  let (path, query, fragment) := splitTail kind (beyond ++ tail)
  let segments := readPath kind path
  pure ⟨scheme, username, password, some host, service, .segments segments, query, fragment⟩

def readFile (ascii? : List Nat → Option Text) (scheme text : Text) : Except UrlFault Url := do
  let kind := SchemeKind.file
  let isSlash := kind.isSlash
  let (front, query, fragment) := splitTail kind text
  let made (host : Text) (segments : List Text) : Url :=
    ⟨scheme, [], [], some (.name host), none, .segments segments, query, fragment⟩
  match front with
  | a :: b :: rest =>
      if isSlash a ∧ isSlash b then
        let (hostText, path) := spanUntil isSlash rest
        if isDrive hostText then pure (made [] (extendPath kind [] rest))
        else
          let segments := readPath kind path
          if hostText = [] then pure (made [] segments)
          else
            match ← readHost (readDomain ascii?) hostText with
            | .name domain =>
                let dropped := domain = "localhost".toList ∨ isDrivePath (segments.take 1)
                pure (made (if dropped then [] else domain) segments)
            | host =>
                if isDrivePath (segments.take 1) then pure (made [] segments)
                else pure { made [] segments with host := some host }
      else pure (made [] (readPath kind front))
  | _ => pure (made [] (readPath kind front))

def readOther (ascii? : List Nat → Option Text) (scheme text : Text) : Except UrlFault Url :=
  match text with
  | '/' :: '/' :: rest => readAuthority ascii? .other scheme rest
  | _ =>
      let (front, query, fragment) := splitTail .other text
      let path :=
        match front with
        | '/' :: rest => UrlPath.segments (extendPath .other [] rest)
        | _ => .plain (escape isControl front)
      .ok ⟨scheme, [], [], none, none, path, query, fragment⟩

def Url.parse (ascii? : List Nat → Option Text) (text : Text) : Except UrlFault Url :=
  match splitScheme? (tidy text) with
  | none => .error .noBase
  | some (scheme, rest) =>
      match schemeKind scheme with
      | .web service =>
          readAuthority ascii? (.web service) scheme
            (rest.dropWhile fun c => c == '/' || c == '\\')
      | .file => readFile ascii? scheme rest
      | .other => readOther ascii? scheme rest

/-- What an absolute path means at an address, given by what follows its first slash. A query and a
fragment are those of the path, and a drive of a file is kept if the path names no drive. -/
def Url.atPath (url : Url) (text : Text) : Except UrlFault Url :=
  match url.path with
  | .plain _ => .error .plainBase
  | .segments items =>
      let kind := schemeKind url.scheme
      let keepsDrive := kind = .file ∧ isDrivePath (items.take 1) ∧
        ¬ isDrive (spanUntil (endsAuthority kind) text).1
      let drive := if keepsDrive then items.take 1 else []
      let (front, query, fragment) := splitTail kind text
      .ok { url with path := .segments (extendPath kind drive front), query, fragment }

end StrategyDesk.Web
