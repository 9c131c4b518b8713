import ResilientCalls.Http.Host
import ResilientCalls.Text.Written

namespace ResilientCalls.Http

/-- The text before and after the first occurrence of a character. -/
def cutAt? (c : Char) (cs : List Char) : Option (List Char × List Char) :=
  match cs.dropWhile (· ≠ c) with
  | [] => none
  | _ :: after => some (cs.takeWhile (· ≠ c), after)

/-- The text before and after the last occurrence of a character. -/
def cutAtLast? (c : Char) (cs : List Char) : Option (List Char × List Char) :=
  (cutAt? c cs.reverse).map fun p => (p.2.reverse, p.1.reverse)

/-- An address in the form in which it is sent. -/
structure Url where
  scheme : List Char
  user : List Char
  host : List Char
  number : Option Int
  path : List Char
  query : Option (List Char)
  fragment : Option (List Char)

/-- The parts of an address as they are written. -/
structure UrlParts where
  scheme : List Char
  authority : List Char
  path : List Char
  query : Option (List Char)
  fragment : Option (List Char)

/-- Why an address cannot be sent. -/
inductive UrlFault where
  | tooLong
  | partTooLong (part : String)
  | controlCharacter (c : Char) (place : Nat)
  | badNumber (number : List Char)
  | badHost (host : List Char) (r : Host.Refusal)
  | noSlash
  | startsWith (start : String)

def UrlFault.message : UrlFault → String
  | .tooLong => "URL too long"
  | .partTooLong part => "URL component '" ++ part ++ "' too long"
  | .controlCharacter c place =>
    "Invalid non-printable ASCII character in URL, " ++ Text.quoted (String.ofList [c])
      ++ " at position " ++ toString place ++ "."
  | .badNumber number => "Invalid port: " ++ Text.quoted (String.ofList number)
  | .badHost host r => r.message host
  | .noSlash => "For absolute URLs, path must be empty or begin with '/'"
  | .startsWith start => "Relative URLs cannot have a path starting with '" ++ start ++ "'"

def isSchemeChar (c : Char) : Bool := c.isAlphanum || c ∈ ['+', '.', '-']

def isScheme (cs : List Char) : Bool :=
  match cs with
  | [] => true
  | c :: rest => c.isAlpha && rest.all isSchemeChar

def UrlParts.ofChars (cs : List Char) : UrlParts :=
  let (cs, fragment) := match cutAt? '#' cs with
    | some (before, after) => (before, some after)
    | none => (cs, none)
  let (cs, query) := match cutAt? '?' cs with
    | some (before, after) => (before, some after)
    | none => (cs, none)
  let (scheme, cs) := match cutAt? ':' cs with
    | some (before, after) => if isScheme before then (before, after) else ([], cs)
    | none => ([], cs)
  let (authority, path) := match cs with
    | '/' :: '/' :: rest => (rest.takeWhile (· ≠ '/'), rest.dropWhile (· ≠ '/'))
    | _ => ([], cs)
  { scheme, authority, path, query, fragment }

/-- A host, which may stand between brackets, and the number after it. -/
def hostAndNumber (cs : List Char) : List Char × List Char :=
  let bracketed : Option (List Char × List Char) := match cs with
    | '[' :: _ => (cutAtLast? ']' cs).map fun p => (p.1 ++ [']'], p.2)
    | _ => none
  let (host, rest) := bracketed.getD (cs.takeWhile (· ≠ ':'), cs.dropWhile (· ≠ ':'))
  match rest with
  | ':' :: number => (host, number)
  | number => (host, number)

/-- The number that a scheme implies. -/
def impliedNumber? (scheme : List Char) : Option Int :=
  match String.ofList scheme with
  | "ftp" => some 21
  | "http" | "ws" => some 80
  | "https" | "wss" => some 443
  | _ => none

/-- The number that a text writes, unless the scheme implies it. -/
def numberOf (scheme number : List Char) : Except UrlFault (Option Int) :=
  if number = [] then .ok none
  else
    match Text.writtenInt? number with
    | none => .error (.badNumber number)
    | some n => .ok (if impliedNumber? scheme = some n then none else some n)

/-- Drops the segments that mean the same or the parent directory. -/
def dropDots (done : List (List Char)) : List (List Char) → List (List Char)
  | [] => done.reverse
  | c :: rest =>
    if c = ['.'] then dropDots done rest
    else if c = ['.', '.'] then dropDots (if done = [[]] then done else done.drop 1) rest
    else dropDots (c :: done) rest

def plainPath (path : List Char) : List Char := ['/'].intercalate (dropDots [] (path.splitOn '/'))

/-- Refuses a path that would be read as another part. -/
def checkPath (hasScheme hasAuthority : Bool) (path : List Char) : Except UrlFault Unit :=
  if hasAuthority then
    if path = [] || path.head? = some '/' then .ok () else .error .noSlash
  else if hasScheme then .ok ()
  else if ['/', '/'].isPrefixOf path then .error (.startsWith "//")
  else if path.head? = some ':' then .error (.startsWith ":")
  else .ok ()

namespace Url

/-- The address that has the given parts. -/
def ofParts (p : UrlParts) : Except UrlFault Url := do
  let (user, rest) := (cutAtLast? '@' p.authority).getD ([], p.authority)
  let (host, number) := hostAndNumber rest
  let encoded ← match Host.encode host with
    | .ok h => pure h
    | .error r => throw (.badHost host r)
  let number ← numberOf p.scheme number
  let hasAuthority := user ≠ [] || encoded ≠ [] || number.isSome
  checkPath (p.scheme ≠ []) hasAuthority p.path
  return {
    scheme := p.scheme.map Char.toLower
    user := encodeUnless userSafe user
    host := encoded
    number
    path := encodeUnless pathSafe
      (if p.scheme ≠ [] || hasAuthority then plainPath p.path else p.path)
    query := p.query.map (encodeUnless querySafe)
    fragment := p.fragment.map (encodeUnless fragmentSafe) }

/-- The host and the number after it. -/
def site (u : Url) : List Char :=
  (if ':' ∈ u.host then '[' :: u.host ++ [']'] else u.host) ++
    match u.number with
    | some n => ':' :: (toString n).toList
    | none => []

def authority (u : Url) : List Char :=
  (if u.user = [] then [] else u.user ++ ['@']) ++ u.site

def parts (u : Url) : UrlParts := ⟨u.scheme, u.authority, u.path, u.query, u.fragment⟩

def toChars (u : Url) : List Char :=
  (if u.scheme = [] then [] else u.scheme ++ [':']) ++
    (if u.authority = [] then [] else '/' :: '/' :: u.authority) ++ u.path ++
    (match u.query with
      | some q => '?' :: q
      | none => []) ++
    (match u.fragment with
      | some f => '#' :: f
      | none => [])

def text (u : Url) : String := String.ofList u.toChars

/-- Does an address not say where it leads? -/
def isRelative (u : Url) : Bool := u.scheme = [] || u.host = []

/-- Addresses and parts of them of more characters than this are refused. -/
def maxLength : Nat := 65536

/-- Refuses parts that are too long. -/
def checkLengths (p : UrlParts) : Except UrlFault Unit :=
  let sizes := [("scheme", p.scheme.length), ("authority", p.authority.length),
    ("path", p.path.length), ("query", (p.query.getD []).length),
    ("fragment", (p.fragment.getD []).length)]
  match sizes.find? fun s => maxLength < s.2 with
  | some (part, _) => .error (.partTooLong part)
  | none => .ok ()

/-- The address of parts that were taken from another one. -/
def rebuilt (p : UrlParts) : Except UrlFault Url := do
  checkLengths p
  ofParts p

/-- A relative address begins at the root; its scheme, host and fragment are forgotten. -/
def rooted (u : Url) : Except UrlFault Url :=
  let path := if u.path = [] then [] else u.path.dropWhile (· = '/')
  rebuilt ⟨[], [], '/' :: path, u.query, none⟩

/-- The address that a text writes. -/
def ofChars (cs : List Char) : Except UrlFault Url :=
  if maxLength < cs.length then .error .tooLong
  else
    match cs.find? fun c => c.toNat < 0x20 || c.toNat = 0x7F with
    | some c => .error (.controlCharacter c (cs.takeWhile (· ≠ c)).length)
    | none => ofParts (UrlParts.ofChars cs)

/-- The address that a request for a text is sent to. -/
def ofText (s : String) : Except UrlFault Url := do
  let u ← ofChars s.toList
  if u.isRelative then u.rooted else return u

/-- The address with another query, or none. -/
def withQuery (u : Url) (query : Option (List Char)) : Except UrlFault Url :=
  rebuilt { u.parts with query }

/-- The name and password before the host, if either is there. -/
def credentials? (u : Url) : Option (List Char × List Char) :=
  let (name, password) := (cutAt? ':' u.user).getD (u.user, [])
  if name = [] && password = [] then none else some (decodedText name, decodedText password)

end Url

end ResilientCalls.Http
