import StrategyDesk.Text.Lower
import StrategyDesk.Web.Percent

/-!
# Names of hosts

A plain way to bring the name of a host into ASCII: letters become small, wide forms become narrow,
what does not count is dropped, and a part with other characters is written in the digits of
Punycode. It knows only some of the tables of the standard, and nothing else here depends on it:
addresses are read with any way to do so.
-/

set_option autoImplicit false

namespace StrategyDesk.Web

namespace Punycode

def digit (value : Nat) : Char :=
  if value < 26 then Char.ofNat ('a'.toNat + value) else Char.ofNat ('0'.toNat + value - 26)

/-- A digit below this limit is the last one of its distance. Positions count in steps of 36. -/
def limitAt (bias position : Nat) : Nat := max 1 (min 26 (position - bias))

theorem limitAt_pos (bias position : Nat) : 0 < limitAt bias position := by
  unfold limitAt
  omega

def scale (measure : Nat) : Nat :=
  if measure ≤ 455 then 36 * measure / (measure + 38) else 36 + scale (measure / 35)
termination_by measure
decreasing_by exact Nat.div_lt_self (by omega) (by omega)

/-- The bias after a distance, when the name has `size` characters. The first distance counts for
less. -/
def adapt (distance size : Nat) (isFirst : Bool) : Nat :=
  let measure := distance / (if isFirst then 700 else 2)
  scale (measure + measure / size)

def digits (bias position distance : Nat) : Text :=
  let limit := limitAt bias position
  if distance < limit then [digit distance]
  else
    let radix := 36 - limit
    digit (limit + (distance - limit) % radix) ::
      digits bias (position + 36) ((distance - limit) / radix)
termination_by distance
decreasing_by
  have positive := limitAt_pos bias position
  exact Nat.lt_of_le_of_lt (Nat.div_le_self _ _) (by omega)

/-- The characters beyond ASCII in the order in which they are placed: each with its code, and with
its place among the characters that are there by then. -/
def placements (name : Text) : List (Nat × Nat) :=
  let found := name.zipIdx.filterMap fun (c, index) =>
    if c.toNat < 128 then none
    else some (c.toNat, (name.take index).countP fun other => other.toNat ≤ c.toNat)
  found.mergeSort fun a b => a.1 ≤ b.1

/-- Writes placements. The name has `size` characters, and codes and places count on from `code`
and `place`. -/
def writePlacements (size code place bias : Nat) : List (Nat × Nat) → Text
  | [] => []
  | (nextCode, nextPlace) :: rest =>
      let distance := (nextCode - code) * (size + 1) + nextPlace - place
      digits bias 36 distance ++
        writePlacements (size + 1) nextCode (nextPlace + 1)
          (adapt distance (size + 1) (place == 0)) rest

/-- A name in Punycode: its ASCII characters, and the placements of the others. -/
def encode (name : Text) : Text :=
  let basic := name.filter fun c => c.toNat < 128
  let start := if basic = [] then [] else basic ++ ['-']
  start ++ writePlacements basic.length 128 0 72 (placements name)

def digitValue? (c : Char) : Option Nat :=
  if c.isLower then some (c.toNat - 'a'.toNat)
  else if c.isDigit then some (c.toNat - '0'.toNat + 26)
  else none

def distance? (bias position weight : Nat) : Text → Option (Nat × Text)
  | [] => none
  | c :: rest => do
      let value ← digitValue? c
      let limit := limitAt bias position
      if value < limit then some (value * weight, rest)
      else
        let (more, after) ← distance? bias (position + 36) (weight * (36 - limit)) rest
        some (value * weight + more, after)

theorem distance?_shorter {text rest : Text} {bias position weight distance : Nat}
    (found : distance? bias position weight text = some (distance, rest)) :
    rest.length < text.length := by
  induction text generalizing rest position weight distance with
  | nil => simp [distance?] at found
  | cons c tail ih =>
      simp only [distance?, Option.bind_eq_bind, Option.bind_eq_some_iff] at found
      obtain ⟨value, -, found⟩ := found
      split at found
      · simp only [Option.some.injEq, Prod.mk.injEq] at found
        simp [found.2]
      · simp only [Option.bind_eq_some_iff] at found
        obtain ⟨⟨more, after⟩, inner, found⟩ := found
        simp only [Option.some.injEq, Prod.mk.injEq] at found
        have shorter := ih inner
        rw [← found.2]
        simp only [List.length_cons]
        omega

/-- Reads placements and carries them out. Codes and places count on from `code` and `place`. -/
def placeAll? (name : Text) (code place bias : Nat) (text : Text) : Option Text :=
  if text = [] then some name
  else
    match found : distance? bias 36 1 text with
    | none => none
    | some (distance, rest) =>
        let size := name.length + 1
        let next := code + (place + distance) / size
        if next.isValidChar then
          let spot := (place + distance) % size
          placeAll? (name.insertIdx spot (Char.ofNat next)) next (spot + 1)
            (adapt distance size (place == 0)) rest
        else none
termination_by text.length
decreasing_by exact distance?_shorter found

def decode? (text : Text) : Option Text :=
  match text.reverse.span (· != '-') with
  | (places, '-' :: basic) => placeAll? basic.reverse 128 0 72 places.reverse
  | _ => placeAll? [] 128 0 72 text

end Punycode

/-- Characters that do not count in names. -/
def isIgnored (c : Char) : Bool :=
  let code := c.toNat
  code == 0xAD || code == 0x34F || code == 0x200B || code == 0x2060 || code == 0x2064 ||
    code == 0xFEFF || (0x180B ≤ code && code ≤ 0x180F) || (0xFE00 ≤ code && code ≤ 0xFE0F)

def mapChar (c : Char) : Text :=
  let code := c.toNat
  if isIgnored c then []
  else if code = 0x3002 ∨ code = 0xFF61 then ['.']
  else if 0xFF01 ≤ code ∧ code ≤ 0xFF5E then [(Char.ofNat (code - 0xFEE0)).toLower]
  else Text.lowerChar c

def isForbidden (c : Char) : Bool :=
  let code := c.toNat
  code ≤ 0x20 || (0x7F ≤ code && code ≤ 0x9F) || (0xE000 ≤ code && code ≤ 0xF8FF) ||
    (0xFFF0 ≤ code && code ≤ 0xFFFF) ||
    ['%', '#', '/', ':', '<', '>', '?', '@', '[', '\\', ']', '^', '|'].contains c

def punycodeMark : Text := "xn--".toList

/-- Whether a text is the form in Punycode of a part that needs it, and that is as it would stand
in a name. -/
def isPunycode (text : Text) : Bool :=
  match Punycode.decode? text with
  | none => false
  | some label =>
      label.any (fun c => 128 ≤ c.toNat) && Punycode.encode label == text &&
        label.all fun c => mapChar c == [c] && !isForbidden c

def asciiLabel? (label : Text) : Option Text :=
  let ascii := label.all fun c => c.toNat < 128
  match punycodeMark.isPrefixOf? label with
  | some rest => if ascii ∧ isPunycode rest then some label else none
  | none => some (if ascii then label else punycodeMark ++ Punycode.encode label)

def asciiDomain? (bytes : List Nat) : Option Text := do
  let domain ← utf8Text? bytes
  let mapped := domain.flatMap mapChar
  if mapped.any isForbidden then none
  else
    let labels ← (mapped.splitOn '.').mapM asciiLabel?
    some (List.intercalate ['.'] labels)

end StrategyDesk.Web
