import ResilientCalls.Failure

namespace ResilientCalls

/-- How a computation ends without a value. -/
inductive Stop where
  | failed (f : Failure)
  | cancelled

/-- A computation that changes a state, and then gives a value or stops. The changes that were made
before it stops remain. -/
def Effect (s α : Type) : Type := s → Except Stop α × s

namespace Effect

variable {s α β : Type}

def pure (a : α) : Effect s α := fun w => (.ok a, w)

def bind (x : Effect s α) (f : α → Effect s β) : Effect s β := fun w =>
  match x w with
  | (.ok a, w) => f a w
  | (.error e, w) => (.error e, w)

instance : Monad (Effect s) where
  pure := pure
  bind := bind

def stop (e : Stop) : Effect s α := fun w => (.error e, w)

instance : Inhabited (Effect s α) := ⟨stop .cancelled⟩

def fail (f : Failure) : Effect s α := stop (.failed f)

def get : Effect s s := fun w => (.ok w, w)

def modify (f : s → s) : Effect s Unit := fun w => (.ok (), f w)

def ofExcept : Except Failure α → Effect s α
  | .ok a => pure a
  | .error f => fail f

def ofForeign : Except Foreign α → Effect s α
  | .ok a => pure a
  | .error f => fail (.foreign f)

/-- Runs a computation to its end and gives the way in which it ended. -/
def ending (x : Effect s α) : Effect s (Except Stop α) := fun w =>
  let (r, w) := x w
  (.ok r, w)

/-- Ends in the given way. -/
def conclude : Except Stop α → Effect s α
  | .ok a => pure a
  | .error e => stop e

/-- Runs `last` after `x`, however `x` ends. -/
def thereafter (x : Effect s α) (last : Effect s Unit) : Effect s α := do
  let r ← ending x
  last
  conclude r

end Effect

end ResilientCalls
