import ResilientCalls.Json.Literal
import ResilientCalls.Json.Numeral
import ResilientCalls.Json.Refusal

namespace ResilientCalls.Json

/-- An open container whose next item is being read: what it holds so far, the latest first. -/
inductive Frame where
  | items (done : List Document)
  | member (done : List (CodePoints × Document)) (name : CodePoints)

inductive Mode where
  | value
  | firstItem
  | afterItem (done : List Document)
  | firstName
  | nextName (done : List (CodePoints × Document))
  | colon (done : List (CodePoints × Document)) (name : CodePoints)
  | afterField (done : List (CodePoints × Document))
  | string (s : Literal)
  | word (start : Nat) (rest : List Char) (meaning : Document)
  | number (n : Numeral)
  | finished (j : Document)

/-- The flaw of a character after a complete value that cannot follow it. -/
def Mode.noSuccessor : Mode → Flaw
  | .finished _ => .extraData
  | _ => .noComma

/-- A pushdown machine that takes one code point at a time. The containers that are still open are
held as a list of frames, innermost first, and `room` is how many more may be opened. -/
structure Reader where
  place : Nat
  stack : List Frame
  room : Nat
  mode : Mode

namespace Reader

def isSpace (c : Char) : Bool := c = ' ' || c = '\t' || c = '\n' || c = '\r'

def refuse {α : Type} (flaw : Flaw) (place : Nat) : Except Refusal α :=
  .error (.malformed flaw place)

/-- The mode in which a complete value leaves the innermost open container. -/
def complete (j : Document) : List Frame → List Frame × Mode
  | [] => ([], .finished j)
  | .items done :: rest => (rest, .afterItem (j :: done))
  | .member done name :: rest => (rest, .afterField ((name, j) :: done))

/-- Ends a number before the character at hand, giving the reader that meets this character next. A
pending point or mark is the first character that does not belong to the number. -/
def endNumber (r : Reader) (n : Numeral) : Except Refusal Reader :=
  let close : Except Refusal Reader := do
    let j ← n.value
    let (stack, mode) := complete j r.stack
    return { r with stack, mode }
  let cut := fun place => do
    let after ← close
    refuse after.mode.noSuccessor place
  match n.part with
  | .minus => refuse .noValue n.start
  | .point place => cut place
  | .mark place => cut place
  | .sign place => cut place
  | _ => close

def endString (r : Reader) (s : Literal) : Reader :=
  let content := s.settle.done.reverse
  match s.purpose with
  | .name done => { r with mode := .colon done content }
  | .value =>
    let (stack, mode) := complete (.text content) r.stack
    { r with stack, mode }

def stepString (r : Reader) (s : Literal) (p : CodePoint) : Except Refusal Reader :=
  let go := fun s : Literal => { r with mode := .string s }
  let c := p.toChar
  match s.escape with
  | .backslash place =>
    if c = 'u' then .ok (go { s with escape := .codeUnit r.place 0 0 })
    else match escaped? c with
      | some d => .ok (go (s.push d))
      | none => refuse .badEscape place
  | .codeUnit place digits unit =>
    match hexValue? c with
    | none => refuse .badCodeUnit place
    | some d =>
      let unit := 16 * unit + d
      if digits = 3 then .ok (go (s.pushUnit place unit))
      else .ok (go { s with escape := .codeUnit place (digits + 1) unit })
  | _ =>
    if c = '"' then .ok (endString r s)
    else if c = '\\' then .ok (go { s with escape := .backslash r.place })
    else if c.toNat < 0x20 then refuse .controlCharacter r.place
    else .ok (go (s.push p))

def openString (r : Reader) (purpose : Purpose) : Reader :=
  { r with mode := .string ⟨r.place, purpose, [], .none, none⟩ }

/-- Opens a container with the mode that awaits its first item, if there is room for it. -/
def descend (r : Reader) (container : Container) (mode : Mode) : Except Refusal Reader :=
  match r.room with
  | 0 => .error (.tooDeep container)
  | room + 1 => .ok { r with room, mode }

/-- Closes the innermost container. -/
def ascend (r : Reader) (j : Document) : Reader :=
  let (stack, mode) := complete j r.stack
  { r with stack, mode, room := r.room + 1 }

/-- The first character of a value. -/
def stepValue (r : Reader) (c : Char) : Except Refusal Reader :=
  let word := fun rest meaning => Except.ok { r with mode := .word r.place rest meaning }
  let number := fun part negative whole =>
    Except.ok { r with mode := .number ⟨r.place, part, negative, whole, [], false, []⟩ }
  match c with
  | '"' => .ok (openString r .value)
  | '[' => descend r .array .firstItem
  | '{' => descend r .object .firstName
  | 'n' => word ['u', 'l', 'l'] .null
  | 't' => word ['r', 'u', 'e'] (.bool true)
  | 'f' => word ['a', 'l', 's', 'e'] (.bool false)
  | 'N' => word ['a', 'N'] (.float (Binary64.noNumber false))
  | 'I' => word "nfinity".toList (.float (Binary64.infinity false))
  | '-' => number .minus true []
  | '0' => number .zero false [c]
  | _ => if c.isDigit then number .whole false [c] else refuse .noValue r.place

/-- A code point outside numbers. -/
def stepBetween (r : Reader) (p : CodePoint) : Except Refusal Reader :=
  let c := p.toChar
  match r.mode with
  | .value => if isSpace c then .ok r else stepValue r c
  | .firstItem =>
    if isSpace c then .ok r
    else if c = ']' then .ok (ascend r (.list []))
    else stepValue { r with stack := .items [] :: r.stack } c
  | .afterItem done =>
    if isSpace c then .ok r
    else if c = ',' then .ok { r with stack := .items done :: r.stack, mode := .value }
    else if c = ']' then .ok (ascend r (.list done.reverse))
    else refuse .noComma r.place
  | .firstName =>
    if isSpace c then .ok r
    else if c = '"' then .ok (openString r (.name []))
    else if c = '}' then .ok (ascend r (.object []))
    else refuse .noName r.place
  | .nextName done =>
    if isSpace c then .ok r
    else if c = '"' then .ok (openString r (.name done))
    else refuse .noName r.place
  | .colon done name =>
    if isSpace c then .ok r
    else if c = ':' then .ok { r with stack := .member done name :: r.stack, mode := .value }
    else refuse .noColon r.place
  | .afterField done =>
    if isSpace c then .ok r
    else if c = ',' then .ok { r with mode := .nextName done }
    else if c = '}' then .ok (ascend r (.object (ofAssignments done.reverse)))
    else refuse .noComma r.place
  | .finished _ => if isSpace c then .ok r else refuse .extraData r.place
  | .string s => stepString r s p
  | .number _ => .ok r
  | .word start rest meaning =>
    match rest with
    | d :: more =>
      if c ≠ d then refuse .noValue start
      else if more.isEmpty then
        let (stack, mode) := complete meaning r.stack
        .ok { r with stack, mode }
      else .ok { r with mode := .word start more meaning }
    | [] => refuse .noValue start

/-- Takes one code point. -/
def step (r : Reader) (p : CodePoint) : Except Refusal Reader :=
  let after : Except Refusal Reader :=
    match r.mode with
    | .number n =>
      match n.extend? r.place p.toChar with
      | some n => .ok { r with mode := .number n }
      | none =>
        -- a minus sign may also begin a word
        match n.part, p.toChar with
        | .minus, 'I' =>
          .ok { r with mode := .word n.start "nfinity".toList (.float (Binary64.infinity true)) }
        | _, _ =>
          match endNumber r n with
          | .ok r => stepBetween r p
          | .error e => .error e
    | _ => stepBetween r p
  match after with
  | .ok r => .ok { r with place := r.place + 1 }
  | .error e => .error e

/-- Takes the code points of a text in order. -/
def run (r : Reader) : CodePoints → Except Refusal Reader
  | [] => .ok r
  | p :: rest =>
    match r.step p with
    | .ok r => r.run rest
    | .error e => .error e

/-- The flaw of a text that ends too early. -/
def unfinished (r : Reader) : Refusal :=
  match r.mode with
  | .firstName | .nextName _ => .malformed .noName r.place
  | .colon _ _ => .malformed .noColon r.place
  | .afterItem _ | .afterField _ => .malformed .noComma r.place
  | .word start _ _ => .malformed .noValue start
  | .string s =>
    match s.escape with
    | .codeUnit place _ _ | .ended place => .malformed .badCodeUnit place
    | _ => .malformed .openString s.start
  | _ => .malformed .noValue r.place

/-- The value read, once the text has ended. -/
def result (r : Reader) : Except Refusal Document :=
  let settled : Except Refusal Reader :=
    match r.mode with
    | .number n => endNumber r n
    | _ => .ok r
  match settled with
  | .error e => .error e
  | .ok r =>
    match r.mode with
    | .finished j => .ok j
    | _ => .error r.unfinished

def start [Depth] : Reader := ⟨0, [], Depth.most, .value⟩

end Reader

/-- The value of a text, from its first code point to the last. Beyond the standard the words `NaN`,
`Infinity` and `-Infinity` are numbers, and a surrogate may stand in a string. -/
def read [Depth] (ps : CodePoints) : Except Refusal Document :=
  match Reader.start.run ps with
  | .ok r => r.result
  | .error e => .error e

/-- The value of a text. A text that begins with a byte order mark is refused. -/
def decode [Depth] (ps : CodePoints) : Except Refusal Document :=
  match ps with
  | .char '\uFEFF' :: _ => .error (.malformed .byteOrderMark 0)
  | _ => read ps

end ResilientCalls.Json
