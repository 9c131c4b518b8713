import ResilientCalls.Breaker.State
import ResilientCalls.Json.Equality

namespace ResilientCalls.Breaker

/-- A breaker's number, in order of creation. -/
abbrev Id := Nat

structure Cell (τ : Type) where
  /-- The key that the breaker was made with. -/
  key : Json
  config : Config
  state : State τ

/-- What a snapshot tells of a breaker. -/
def Cell.toJson {τ : Type} (instant : τ → Json) (c : Cell τ) : Json :=
  .object [("state", .text c.state.phase.name), ("failure_count", c.state.failures.toJson),
    ("opened_at", Json.ofOption instant c.state.openedAt),
    ("half_open_in_flight", c.state.inFlight.toJson), ("config", c.config.toJson)]

/-- One breaker a key, under the key that it was made with. Breakers that were given out outlive
their keys. -/
structure Registry (τ : Type) where
  cells : List (Cell τ)
  live : List (Json × Id)

namespace Registry

variable {τ : Type}

def empty : Registry τ := ⟨[], []⟩

def cell? (r : Registry τ) (id : Id) : Option (Cell τ) := r.cells[id]?

def find? (r : Registry τ) (key : Json) : Option Id :=
  (r.live.find? fun p => p.1.isSame key).map (·.2)

def modifyState (r : Registry τ) (id : Id) (f : State τ → State τ) : Registry τ :=
  { r with cells := r.cells.modify id fun c => { c with state := f c.state } }

def setState (r : Registry τ) (id : Id) (s : State τ) : Registry τ := r.modifyState id fun _ => s

def setConfig (r : Registry τ) (id : Id) (config : Config) : Registry τ :=
  { r with cells := r.cells.modify id fun c => { c with config } }

/-- Adds a breaker for a key that has none, and gives its number. -/
def add (r : Registry τ) (config : Config) : Registry τ × Id :=
  let id := r.cells.length
  (⟨r.cells ++ [⟨config.key, config, .fresh⟩], r.live ++ [(config.key, id)]⟩, id)

/-- Forgets every key. -/
def clear (r : Registry τ) : Registry τ := { r with live := [] }

/-- The breakers that are known by key, in the order in which their keys were first asked for. -/
def snapshot (r : Registry τ) : List (Json × Cell τ) :=
  r.live.filterMap fun (key, id) => (r.cell? id).map (key, ·)

end Registry

end ResilientCalls.Breaker
