import ResilientCalls.Text.Quoted

namespace ResilientCalls.Text

/-- The size of a unit in octets and their order. -/
inductive Encoding where
  | utf8
  | utf16 (bigEndian : Bool)
  | utf32 (bigEndian : Bool)

def Encoding.name : Encoding → String
  | .utf8 => "utf-8"
  | .utf16 big => if big then "utf-16-be" else "utf-16-le"
  | .utf32 big => if big then "utf-32-be" else "utf-32-le"

inductive Defect where
  | invalidStart
  | invalidContinuation
  | unexpectedEnd
  | truncated
  | outOfRange

def Defect.message : Defect → String
  | .invalidStart => "invalid start byte"
  | .invalidContinuation => "invalid continuation byte"
  | .unexpectedEnd => "unexpected end of data"
  | .truncated => "truncated data"
  | .outOfRange => "code point not in range(0x110000)"

/-- What stands at the head of an octet sequence, and how many octets it takes. -/
inductive Head where
  | point (p : CodePoint) (width : Nat)
  | defect (d : Defect) (width : Nat)

def isContinuation (b : Nat) : Bool := 0x80 ≤ b && b < 0xC0

/-- May `second` follow the lead octet of a longer form without making it overlong, a surrogate or
too large? -/
def mayFollow (surrogates : Bool) (lead second : Nat) : Bool :=
  isContinuation second && (lead ≠ 0xE0 || 0xA0 ≤ second) && (lead ≠ 0xF0 || 0x90 ≤ second) &&
    (lead ≠ 0xED || second < 0xA0 || surrogates) && (lead ≠ 0xF4 || second < 0x90)

def utf8Head (surrogates : Bool) (lead : Nat) (rest : List Nat) : Head :=
  if lead < 0x80 then .point (.ofNat lead) 1
  else if lead < 0xC2 then .defect .invalidStart 1
  else if lead < 0xE0 then
    match rest with
    | [] => .defect .unexpectedEnd 1
    | b :: _ =>
      if isContinuation b then .point (.ofNat ((lead - 0xC0) * 64 + (b - 0x80))) 2
      else .defect .invalidContinuation 1
  else if lead < 0xF0 then
    match rest with
    | [] => .defect .unexpectedEnd 1
    | [b] =>
      if mayFollow false lead b then .defect .unexpectedEnd 2 else .defect .invalidContinuation 1
    | b :: c :: _ =>
      if mayFollow (surrogates && isContinuation c) lead b then
        if isContinuation c then
          .point (.ofNat ((lead - 0xE0) * 4096 + (b - 0x80) * 64 + (c - 0x80))) 3
        else .defect .invalidContinuation 2
      else .defect .invalidContinuation 1
  else if lead < 0xF5 then
    match rest with
    | [] => .defect .unexpectedEnd 1
    | b :: more =>
      if mayFollow false lead b then
        match more with
        | [] => .defect .unexpectedEnd 2
        | c :: last =>
          if isContinuation c then
            match last with
            | [] => .defect .unexpectedEnd 3
            | d :: _ =>
              if isContinuation d then
                .point (.ofNat ((lead - 0xF0) * 262144 + (b - 0x80) * 4096
                  + (c - 0x80) * 64 + (d - 0x80))) 4
              else .defect .invalidContinuation 3
          else .defect .invalidContinuation 2
      else .defect .invalidContinuation 1
  else .defect .invalidStart 1

def pair (big : Bool) (a b : Nat) : Nat := if big then a * 256 + b else b * 256 + a

def utf16Head (big : Bool) (lead : Nat) : List Nat → Head
  | [] => .defect .truncated 1
  | b :: rest =>
    let unit := pair big lead b
    if 0xD800 ≤ unit && unit < 0xDC00 then
      match rest with
      | c :: d :: _ =>
        let next := pair big c d
        if 0xDC00 ≤ next && next < 0xE000 then
          .point (.ofNat (0x10000 + (unit - 0xD800) * 0x400 + (next - 0xDC00))) 4
        else .point (.ofNat unit) 2
      | _ => .point (.ofNat unit) 2
    else .point (.ofNat unit) 2

def utf32Head (big : Bool) (lead : Nat) : List Nat → Head
  | b :: c :: d :: _ =>
    let code :=
      if big then pair true lead b * 65536 + pair true c d
      else pair false c d * 65536 + pair false lead b
    if code < 0x110000 then .point (.ofNat code) 4 else .defect .outOfRange 4
  | rest => .defect .truncated (rest.length + 1)

def Encoding.head : Encoding → Nat → List Nat → Head
  | .utf8 => utf8Head true
  | .utf16 big => utf16Head big
  | .utf32 big => utf32Head big

/-- The first defect of an octet sequence that a strict reading meets. -/
structure DecodingFault where
  encoding : Encoding
  defect : Defect
  place : Nat
  width : Nat
  lead : Nat

def DecodingFault.message (f : DecodingFault) : String :=
  let at_ := if f.width = 1 then
      "byte 0x" ++ String.ofList (hexPadded 2 f.lead) ++ " in position " ++ toString f.place
    else "bytes in position " ++ toString f.place ++ "-" ++ toString (f.place + f.width - 1)
  "'" ++ f.encoding.name ++ "' codec can't decode " ++ at_ ++ ": " ++ f.defect.message

/-- Reads octets from `place` on; `skip` of them belong to the code point before. -/
def decodeFrom (e : Encoding) (done : CodePoints) (place skip : Nat) :
    List Nat → Except DecodingFault CodePoints
  | [] => .ok done.reverse
  | b :: rest =>
    match skip with
    | n + 1 => decodeFrom e done (place + 1) n rest
    | 0 =>
      match e.head b rest with
      | .point p width => decodeFrom e (p :: done) (place + 1) (width - 1) rest
      | .defect d width => .error ⟨e, d, place, width, b⟩

/-- Reads octets as characters, each defect as one replacement. -/
def decodeLenient (done : List Char) (skip : Nat) : List Nat → List Char
  | [] => done.reverse
  | b :: rest =>
    match skip with
    | n + 1 => decodeLenient done n rest
    | 0 =>
      match utf8Head false b rest with
      | .point p width => decodeLenient (p.toChar :: done) (width - 1) rest
      | .defect _ width => decodeLenient (CodePoint.replacement :: done) (width - 1) rest

/-- The encoding of a JSON text and the length of its byte order mark: by the mark if there is one,
else by where the zero octets stand among the first four. -/
def detect (octets : List Nat) : Encoding × Nat :=
  match octets with
  | 0 :: 0 :: 0xFE :: 0xFF :: _ => (.utf32 true, 4)
  | 0xFF :: 0xFE :: 0 :: 0 :: _ => (.utf32 false, 4)
  | 0xFE :: 0xFF :: _ => (.utf16 true, 2)
  | 0xFF :: 0xFE :: _ => (.utf16 false, 2)
  | 0xEF :: 0xBB :: 0xBF :: _ => (.utf8, 3)
  | a :: b :: c :: d :: _ =>
    if a = 0 then (if b = 0 then .utf32 true else .utf16 true, 0)
    else if b = 0 then (if c = 0 && d = 0 then .utf32 false else .utf16 false, 0)
    else (.utf8, 0)
  | [0, _] => (.utf16 true, 0)
  | [_, 0] => (.utf16 false, 0)
  | _ => (.utf8, 0)

/-- The code points of a JSON text. Places count from the first octet, or for single octets from the
first after the mark. -/
def decodeDetected (octets : List Nat) : Except DecodingFault CodePoints :=
  let (e, mark) := detect octets
  let first := match e with
    | .utf8 => 0
    | _ => mark
  decodeFrom e [] first 0 (octets.drop mark)

end ResilientCalls.Text
