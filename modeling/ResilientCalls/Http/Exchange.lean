import ResilientCalls.Http.Query
import ResilientCalls.Http.Status
import ResilientCalls.Http.Url
import ResilientCalls.Json.Compact
import ResilientCalls.Text.Base64

namespace ResilientCalls.Http

structure Request where
  method : String
  url : Url
  headers : List (String × String)
  timeoutSeconds : Binary64
  body : Json

/-- The ways in which a request can end. -/
inductive Outcome where
  | response (status : Int) (content : List Nat)
  | timedOut
  | broken (reason : String)

/-- The values of a header, joined. -/
def joinedHeader (name : String) (headers : List (String × String)) : Option String :=
  match (headers.filter fun h => h.1.toLower = name).map (·.2) with
  | [] => none
  | values => some (", ".intercalate values)

/-- Headers under lower-case names, each once. -/
def lowered (headers : List (String × String)) : List (String × String) :=
  ((headers.map fun h => h.1.toLower).eraseDups).filterMap fun name =>
    (joinedHeader name headers).map (name, ·)

/-- A text that has to be in ASCII; a fault tells of its first run of other characters. -/
def checkAscii (s : String) : Except Foreign Unit :=
  let isAscii := fun c : Char => c.toNat < 0x80
  let start := (s.toList.takeWhile isAscii).length
  let rest := s.toList.dropWhile isAscii
  let width := (rest.takeWhile fun c => !isAscii c).length
  match rest with
  | [] => .ok ()
  | c :: _ =>
    let culprit :=
      if width = 1 then
        "character '" ++ String.ofList (Text.escapedCode c.toNat) ++
          "' in position " ++ toString start
      else
        "characters in position " ++ toString start ++ "-" ++ toString (start + width - 1)
    .error (.unencodable
      ("'ascii' codec can't encode " ++ culprit ++ ": ordinal not in range(128)"))

/-- The headers of a request whose body is JSON, with those that are given in their place. -/
def jsonHeaders (given : Json) : Except Foreign (List (String × Json)) :=
  let standard := [("Content-Type", Json.text "application/json")]
  if !given.holds then .ok standard
  else
    match given with
    | .object fields => .ok (Json.ofAssignments (standard ++ fields))
    | _ => .error (.illTyped ("'" ++ given.typeName ++ "' object is not a mapping"))

/-- A header that can be sent. -/
def sentHeader (header : String × Json) : Except Foreign (String × String) := do
  checkAscii header.1
  match header.2 with
  | .text value => do
    checkAscii value
    return (header.1, value)
  | j => throw (.illTyped ("Header value must be str or bytes, not " ++ j.className))

/-- The header that carries a name and a password. -/
def basicCredentials (name password : List Char) : String :=
  "Basic " ++ String.ofList (Text.base64 (octets (name ++ ':' :: password)))

/-- The address that a value gives. -/
def Url.ofJson (j : Json) : Except Foreign Url :=
  match j with
  | .text s => (Url.ofText s).mapError (.invalidUrl ·.message)
  | _ =>
    .error (.illTyped
      ("Invalid type for url.  Expected str or httpx.URL, got " ++ j.className ++ ": " ++ j.shown))

/-- The address whose query is changed as the parameters say. -/
def Url.withParams (u : Url) (params : Json) : Except Foreign Url := do
  match ← Query.Change.ofJson params with
  | .keep => return u
  | .put query => (u.withQuery query).mapError (.invalidUrl ·.message)

/-- The request that posts a body, or why it cannot be sent. -/
def Request.post (url body : Json) (headers : List (String × Json)) (params : Json)
    (timeoutSeconds : Binary64) : Except Foreign Request := do
  let url ← Url.ofJson url
  let headers := lowered (← headers.mapM sentHeader)
  let url ← url.withParams params
  if !body.isFinite then throw (.value "Out of range float values are not JSON compliant")
  if (Json.get? "host" headers).isNone then
    Host.checkEncoded url.host
    checkAscii (String.ofList url.site)
  let headers := match url.credentials? with
    | some (name, password) => Json.put "authorization" (basicCredentials name password) headers
    | none => headers
  return { method := "POST", url, headers, timeoutSeconds, body }

/-- The characters whose compatible form holds a mark that has a meaning in an address. -/
def isMisleading (c : Char) : Bool :=
  [0x2047, 0x2048, 0x2049, 0x2100, 0x2101, 0x2105, 0x2106, 0x2A74, 0xFE13, 0xFE16, 0xFE55, 0xFE56,
    0xFE5F, 0xFE6B, 0xFF03, 0xFF0F, 0xFF1A, 0xFF1F, 0xFF20].contains c.toNat

/-- What comes of a request: a response is taken only from an address that says where it leads, and
whose authority holds no misleading character. -/
def Request.receive (r : Request) (outcome : Outcome) : Except Foreign Outcome :=
  match outcome with
  | .response .. =>
    if r.url.isRelative then .error (.value ("unknown url type: " ++ Text.quoted r.url.text))
    else if r.url.authority.any isMisleading then
      .error (.value ("netloc '" ++ String.ofList r.url.authority ++
        "' contains invalid characters under NFKC normalization"))
    else .ok outcome
  | _ => .ok outcome

end ResilientCalls.Http
