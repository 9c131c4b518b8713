import ResilientCalls.Json.Literal
import ResilientCalls.Text.Octets

namespace ResilientCalls.Http

def upperHex (n : Nat) : Char := Char.ofNat (if n < 10 then 48 + n else 55 + n)

/-- The octets of a text. -/
def octets (cs : List Char) : List Nat := (String.ofList cs).toUTF8.toList.map (·.toNat)

def percentEncoded (c : Char) : List Char :=
  (octets [c]).flatMap fun b => ['%', upperHex (b / 16), upperHex (b % 16)]

def encodeUnless (safe : Char → Bool) (cs : List Char) : List Char :=
  cs.flatMap fun c => if safe c then [c] else percentEncoded c

def isPlain (c : Char) : Bool := 0x20 ≤ c.toNat && c.toNat < 0x7F

def querySafe (c : Char) : Bool := isPlain c && c ∉ [' ', '"', '#', '<', '>']

def pathSafe (c : Char) : Bool := querySafe c && c ∉ ['?', '\x60', '{', '}']

def fragmentSafe (c : Char) : Bool := isPlain c && c ∉ [' ', '"', '<', '>', '\x60']

/-- May a character stand in the name and password before a host? -/
def userSafe (c : Char) : Bool :=
  pathSafe c && c ∉ ['/', ';', '=', '@', '[', '\\', ']', '^', '|']

def isUnreserved (c : Char) : Bool := c.isAlphanum || c ∈ ['-', '.', '_', '~']

def hostSafe (c : Char) : Bool := isUnreserved c || c ∈ "!$&'()*+,;=\"\x60\x7b\x7d%|\\".toList

/-- The octets that a text stands for, after those that are done, latest first. -/
def percentDecoded (done : List Nat) : List Char → List Nat
  | [] => done.reverse
  | '%' :: a :: b :: rest =>
    match Json.hexValue? a, Json.hexValue? b with
    | some high, some low => percentDecoded ((16 * high + low) :: done) rest
    | _, _ => percentDecoded (0x25 :: done) (a :: b :: rest)
  | c :: rest => percentDecoded ((octets [c]).reverse ++ done) rest

/-- The characters that a text stands for; octets that form none are replaced. -/
def decodedText (cs : List Char) : List Char := Text.decodeLenient [] 0 (percentDecoded [] cs)

/-- The form encoding of a text: a blank becomes a plus sign. -/
def formEncoded (s : String) : List Char :=
  s.toList.flatMap fun c =>
    if c = ' ' then ['+'] else if isUnreserved c then [c] else percentEncoded c

end ResilientCalls.Http
