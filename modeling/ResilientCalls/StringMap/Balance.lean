import ResilientCalls.Text.CodePoint

namespace ResilientCalls.StringMap

inductive Context where
  | outside
  | quoted
  | escaped
  deriving DecidableEq

structure Scan where
  depth : Nat
  context : Context
  deriving DecidableEq

def Scan.start : Scan := ⟨0, .outside⟩

def Scan.step (s : Scan) (p : CodePoint) : Scan :=
  match s.context with
  | .escaped => { s with context := .quoted }
  | .quoted =>
    if p = '\\' then { s with context := .escaped }
    else if p = '"' then { s with context := .outside }
    else s
  | .outside =>
    if p = '"' then { s with context := .quoted }
    else if p = '{' then { s with depth := s.depth + 1 }
    else if p = '}' then { s with depth := s.depth - 1 }
    else s

/-- The shortest part of the text, after `done` (latest first), at whose end the count is zero. -/
def closing? (done : CodePoints) (s : Scan) : CodePoints → Option CodePoints
  | [] => none
  | p :: rest =>
    let s := s.step p
    if s.depth = 0 then some (p :: done).reverse else closing? (p :: done) s rest

/-- The first balanced object of a text. -/
def balancedObject? (ps : CodePoints) : Option CodePoints :=
  closing? [] .start (ps.dropWhile (· ≠ '{'))

end ResilientCalls.StringMap
