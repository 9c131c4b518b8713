import ResilientCalls.Http.Host.Label
import ResilientCalls.Http.Host.Lower
import ResilientCalls.Http.Percent
import ResilientCalls.Text.Digit

namespace ResilientCalls.Http.Host

/-- Why a host is refused. -/
inductive Refusal where
  | badV4
  | badV6
  | badName
  deriving DecidableEq

def Refusal.message (host : List Char) (r : Refusal) : String :=
  "Invalid " ++
    (match r with
      | .badV4 => "IPv4 address"
      | .badV6 => "IPv6 address"
      | .badName => "IDNA hostname") ++ ": " ++ Text.quoted (String.ofList host)

def isOctet (cs : List Char) : Bool :=
  cs ≠ [] && cs.length ≤ 3 && cs.all Char.isDigit && (cs = ['0'] || cs.head? ≠ some '0') &&
    Text.ofDigits (cs.map fun c => c.toNat - 48) ≤ 255

def isV4 (cs : List Char) : Bool :=
  let parts := cs.splitOn '.'
  parts.length = 4 && parts.all isOctet

/-- Does a text look like an address of version 4: four runs of digits between dots? -/
def resemblesV4 (cs : List Char) : Bool :=
  let parts := cs.splitOn '.'
  parts.length = 4 && parts.all fun p => p ≠ [] && p.all Char.isDigit

def isGroup (cs : List Char) : Bool :=
  cs ≠ [] && cs.length ≤ 4 && cs.all fun c => (Json.hexValue? c).isSome

/-- The parts of an address, in which one of version 4 at the end counts as two groups. -/
def withoutV4 (parts : List (List Char)) : Option (List (List Char)) :=
  match parts.getLast? with
  | none => some parts
  | some last =>
    if '.' ∈ last then
      if isV4 last then some (parts.dropLast ++ [['0'], ['0']]) else none
    else some parts

/-- How many groups an address of version 6 has. -/
def groups : Nat := 8

/-- Are these the groups before or after a gap? An empty one stands at the outer end only, and there
alone. -/
def isSide (side : List (List Char)) : Bool := side = [[]] || side.all isGroup

/-- The groups of a side that are written out. -/
def written (side : List (List Char)) : Nat := if side = [[]] then 0 else side.length

/-- An address of version 6, with a zone after a percent sign. -/
def isV6 (cs : List Char) : Bool :=
  let address := cs.takeWhile (· ≠ '%')
  let zoned := match cs.dropWhile (· ≠ '%') with
    | [] => true
    | _ :: zone => zone ≠ [] && '%' ∉ zone
  let parts := address.splitOn ':'
  zoned && 3 ≤ parts.length &&
    match withoutV4 parts with
    | none => false
    | some parts =>
      let inner := (parts.drop 1).dropLast
      match inner.count [] with
      | 0 => parts.length = groups && parts.all isGroup
      | 1 =>
        let before := parts.take (1 + inner.idxOf [])
        let after := parts.drop (2 + inner.idxOf [])
        isSide before && isSide after && written before + written after < groups
      | _ => false

/-- The dots between labels. -/
def dots : List Nat := [0x2E, 0x3002, 0xFF0E, 0xFF61]

/-- The labels of a name. -/
def labels (cs : List Nat) : List (List Nat) :=
  (cs.map fun c => if c ∈ dots then 0x2E else c).splitOn 0x2E

/-- Names of more characters are not sent; a dot at the end is one more. -/
def maxName : Nat := maxText - 1

/-- The ASCII form of a name. -/
def asciiName? (cs : List Nat) : Option (List Nat) :=
  let small := if cs.length ≤ maxText then lowered cs else cs
  let parts := labels small
  let dotted := parts.getLast? = some []
  if small.length ≤ maxText then do
    let sent ← (if dotted then parts.dropLast else parts).mapM asciiLabel?
    let name := [0x2E].intercalate (sent ++ if dotted then [[]] else [])
    if name.length ≤ maxName + (if dotted then 1 else 0) then some name else none
  else none

/-- A host as it is sent, an address of version 6 without its brackets. -/
def encode (host : List Char) : Except Refusal (List Char) :=
  let inner := (host.drop 1).dropLast
  if host = [] then .ok []
  else if resemblesV4 host then
    if isV4 host then .ok host else .error .badV4
  else if host = '[' :: inner ++ [']'] then
    if isV6 inner then .ok inner else .error .badV6
  else if host.all fun c => c.toNat < 0x80 then
    .ok (encodeUnless hostSafe (host.map Char.toLower))
  else
    match asciiName? (host.map Char.toNat) with
    | some name => .ok (name.map Char.ofNat)
    | none => .error .badName

/-- Checks a host that begins like the ASCII form of a label. -/
def checkEncoded (host : List Char) : Except Foreign Unit :=
  let codes := host.map Char.toNat
  if encodedMark.isPrefixOf codes then
    (checkAsciiName codes).mapError fun p => p.2.failure p.1
  else .ok ()

end ResilientCalls.Http.Host
