import Mathlib.Order.Defs.Unbundled
import ResilientCalls.Retry.Engine

namespace ResilientCalls

theorem eq_ok_of_toOption {ε α : Type} {x : Except ε α} {a : α} (h : x.toOption = some a) :
    x = .ok a := by
  cases x with
  | error e => cases h
  | ok b => rw [Option.some.inj h]

theorem exists_of_bind_ok {ε α β : Type} {x : Except ε α} {f : α → Except ε β} {b : β}
    (h : (x >>= f) = .ok b) : ∃ a, x = .ok a ∧ f a = .ok b := by
  cases x with
  | error e => cases h
  | ok a => exact ⟨a, rfl, h⟩

theorem bind_eq_ok_iff {ε α β : Type} {x : Except ε α} {f : α → Except ε β} {b : β} :
    (x >>= f) = .ok b ↔ ∃ a, x = .ok a ∧ f a = .ok b := by
  constructor
  · exact exists_of_bind_ok
  · rintro ⟨a, rfl, hf⟩
    exact hf

end ResilientCalls

namespace ResilientCalls.Effect

variable {s α β : Type}

@[simp]
theorem pure_apply (a : α) (w : s) : (Pure.pure a : Effect s α) w = (.ok a, w) := rfl

@[simp]
theorem stop_apply (e : Stop) (w : s) : (stop e : Effect s α) w = (.error e, w) := rfl

@[simp]
theorem fail_apply (f : Failure) (w : s) : (fail f : Effect s α) w = (.error (.failed f), w) := rfl

@[simp]
theorem get_apply (w : s) : get w = (.ok w, w) := rfl

@[simp]
theorem modify_apply (f : s → s) (w : s) : modify f w = (.ok (), f w) := rfl

@[simp]
theorem ofExcept_ok (a : α) : (ofExcept (.ok a) : Effect s α) = Pure.pure a := rfl

@[simp]
theorem ofExcept_error (f : Failure) : (ofExcept (.error f) : Effect s α) = fail f := rfl

@[simp]
theorem conclude_ok (a : α) : (conclude (.ok a) : Effect s α) = Pure.pure a := rfl

@[simp]
theorem conclude_error (e : Stop) : (conclude (.error e) : Effect s α) = stop e := rfl

@[simp]
theorem ending_apply (x : Effect s α) (w : s) : ending x w = (.ok (x w).1, (x w).2) := rfl

theorem conclude_apply (r : Except Stop α) (w : s) : conclude r w = (r, w) := by
  cases r <;> rfl

theorem bind_of_ok {x : Effect s α} {w w' : s} {a : α} (h : x w = (.ok a, w'))
    (f : α → Effect s β) : (x >>= f) w = f a w' := by
  show bind x f w = _
  rw [bind, h]

theorem bind_of_error {x : Effect s α} {w w' : s} {e : Stop} (h : x w = (.error e, w'))
    (f : α → Effect s β) : (x >>= f) w = (.error e, w') := by
  show bind x f w = _
  rw [bind, h]

@[simp]
theorem pure_bind (a : α) (f : α → Effect s β) : (Pure.pure a : Effect s α) >>= f = f a := rfl

@[simp]
theorem stop_bind (e : Stop) (f : α → Effect s β) : (stop e : Effect s α) >>= f = stop e := rfl

@[simp]
theorem fail_bind (g : Failure) (f : α → Effect s β) : (fail g : Effect s α) >>= f = fail g := rfl

@[simp]
theorem get_bind_apply (f : s → Effect s β) (w : s) : (get >>= f) w = f w w := rfl

@[simp]
theorem modify_bind_apply (g : s → s) (f : Unit → Effect s β) (w : s) :
    (modify g >>= f) w = f () (g w) := rfl

@[simp]
theorem ending_bind_apply (x : Effect s α) (f : Except Stop α → Effect s β) (w : s) :
    (ending x >>= f) w = f (x w).1 (x w).2 := rfl

theorem thereafter_apply (x : Effect s α) (last : Effect s Unit) (w : s) :
    thereafter x last w =
      (match (last (x w).2).1 with
        | .ok () => (x w).1
        | .error e => .error e, (last (x w).2).2) := by
  show (last >>= fun _ => conclude (x w).1) (x w).2 = _
  cases h : last (x w).2 with
  | mk r w' =>
    cases r with
    | ok u => rw [bind_of_ok h, conclude_apply]
    | error e => rw [bind_of_error h]

theorem exists_of_toOption {x : Effect s α} {w : s} {a : α} (h : (x w).1.toOption = some a) :
    ∃ w', x w = (.ok a, w') := ⟨(x w).2, Prod.ext (eq_ok_of_toOption h) rfl⟩

/-- However a computation ends, it leaves a state that is related to the first one. -/
def Moves (R : s → s → Prop) (x : Effect s α) : Prop := ∀ w, R w (x w).2

namespace Moves

variable {R : s → s → Prop}

theorem mono {R' : s → s → Prop} {x : Effect s α} (hx : Moves R x)
    (h : ∀ w w', R w w' → R' w w') : Moves R' x := fun w => h _ _ (hx w)

theorem modify {f : s → s} (h : ∀ w, R w (f w)) : Moves R (Effect.modify f) := h

variable [Std.Refl R]

theorem pure (a : α) : Moves R (Pure.pure a : Effect s α) := fun w => refl_of R w

theorem stop (e : Stop) : Moves R (Effect.stop e : Effect s α) := fun w => refl_of R w

theorem fail (f : Failure) : Moves R (Effect.fail f : Effect s α) := stop _

theorem get : Moves R (Effect.get : Effect s s) := fun w => refl_of R w

theorem conclude (r : Except Stop α) : Moves R (Effect.conclude r) := by
  cases r with
  | ok a => exact pure a
  | error e => exact stop e

theorem ofExcept (r : Except Failure α) : Moves R (Effect.ofExcept r : Effect s α) := by
  cases r with
  | ok a => exact pure a
  | error f => exact fail f

theorem ofForeign (r : Except Foreign α) : Moves R (Effect.ofForeign r : Effect s α) := by
  cases r with
  | ok a => exact pure a
  | error f => exact fail _

omit [Std.Refl R] in
theorem ending {x : Effect s α} (hx : Moves R x) : Moves R (Effect.ending x) := hx

/-- What follows a computation moves from where that has ended. -/
theorem after_bind {x : Effect s α} {f : α → Effect s β} (hf : ∀ a, Moves R (f a)) (w : s) :
    R (x w).2 ((x >>= f) w).2 := by
  cases h : x w with
  | mk r w' =>
    cases r with
    | ok a =>
      rw [bind_of_ok h]
      exact hf a w'
    | error e =>
      rw [bind_of_error h]
      exact refl_of R w'

omit [Std.Refl R] in
theorem after_ending {x : Effect s α} {f : Except Stop α → Effect s β} (hf : ∀ r, Moves R (f r))
    (w : s) : R (x w).2 ((Effect.ending x >>= f) w).2 := hf _ _

variable [IsTrans s R]

omit [Std.Refl R] in
theorem bind_from {x : Effect s α} {f : α → Effect s β} {w : s} (hx : R w (x w).2)
    (hf : ∀ a, Moves R (f a)) : R w ((x >>= f) w).2 := by
  cases h : x w with
  | mk r w' =>
    rw [h] at hx
    cases r with
    | ok a =>
      rw [bind_of_ok h]
      exact trans_of R hx (hf a w')
    | error e =>
      rw [bind_of_error h]
      exact hx

omit [Std.Refl R] in
theorem bind {x : Effect s α} {f : α → Effect s β} (hx : Moves R x) (hf : ∀ a, Moves R (f a)) :
    Moves R (x >>= f) := fun w => bind_from (hx w) hf

theorem thereafter {x : Effect s α} {last : Effect s Unit} (hx : Moves R x)
    (hl : Moves R last) : Moves R (Effect.thereafter x last) :=
  bind (ending hx) fun _ => bind hl fun _ => conclude _

end Moves

/-- To keep a property of the state is to move along this relation. -/
def Keeping (P : s → Prop) (w w' : s) : Prop := P w → P w'

instance (P : s → Prop) : Std.Refl (Keeping P) := ⟨fun _ => id⟩

instance (P : s → Prop) : IsTrans s (Keeping P) := ⟨fun _ _ _ h k => k ∘ h⟩

/-- From a state with the property, a computation gives a value and keeps the property. -/
def Returns (P : s → Prop) (x : Effect s α) : Prop := ∀ w, P w → P (x w).2 ∧ ∃ a, (x w).1 = .ok a

namespace Returns

variable {P : s → Prop}

theorem pure (a : α) : Returns P (Pure.pure a : Effect s α) := fun _ hw => ⟨hw, a, rfl⟩

theorem modify {f : s → s} (h : ∀ w, P w → P (f w)) : Returns P (Effect.modify f) :=
  fun w hw => ⟨h w hw, (), rfl⟩

theorem get_bind {f : s → Effect s α} (h : ∀ w, P w → Returns P (f w)) :
    Returns P (Effect.get >>= f) := fun w hw => h w hw w hw

theorem bind {x : Effect s α} {f : α → Effect s β} (hx : Returns P x)
    (hf : ∀ a, Returns P (f a)) : Returns P (x >>= f) := by
  intro w hw
  obtain ⟨hp, a, ha⟩ := hx w hw
  rw [bind_of_ok (Prod.ext ha rfl)]
  exact hf a _ hp

end Returns

/-- If a computation gives a value, this value and the state that is left are as `Q` says. -/
def Gives (Q : α → s → Prop) (x : Effect s α) : Prop := ∀ w a, (x w).1 = .ok a → Q a (x w).2

namespace Gives

variable {P : α → s → Prop} {Q : β → s → Prop}

theorem pure {a : α} (h : ∀ w, P a w) : Gives P (Pure.pure a : Effect s α) := by
  intro w b hb
  obtain rfl := Except.ok.inj hb
  exact h w

theorem stop (e : Stop) : Gives P (Effect.stop e : Effect s α) := fun _ _ h => by cases h

theorem fail (f : Failure) : Gives P (Effect.fail f : Effect s α) := stop _

/-- What was said of a value and its state is passed on to what is done with them. -/
theorem bind {x : Effect s α} {f : α → Effect s β} (hx : Gives P x)
    (hf : ∀ a w, P a w → ∀ b, (f a w).1 = .ok b → Q b (f a w).2) : Gives Q (x >>= f) := by
  intro w b hb
  cases h : x w with
  | mk r w' =>
    cases r with
    | ok a =>
      rw [bind_of_ok h] at hb ⊢
      exact hf a w' (by simpa [h] using hx w a (by rw [h])) b hb
    | error e =>
      rw [bind_of_error h] at hb
      cases hb

theorem after (x : Effect s α) {f : α → Effect s β} (hf : ∀ a, Gives Q (f a)) :
    Gives Q (x >>= f) :=
  bind (P := fun _ _ => True) (fun _ _ _ => trivial) fun a w _ b hb => hf a w b hb

theorem ending_bind {x : Effect s α} {f : Except Stop α → Effect s β} (hx : Gives P x)
    (hok : ∀ a w, P a w → ∀ b, (f (.ok a) w).1 = .ok b → Q b (f (.ok a) w).2)
    (herror : ∀ e, Gives Q (f (.error e))) : Gives Q (Effect.ending x >>= f) := by
  intro w b hb
  rw [ending_bind_apply] at hb ⊢
  have hx' := hx w
  cases h : x w with
  | mk r w' =>
    rw [h] at hb hx'
    cases r with
    | ok a => exact hok a w' (hx' a rfl) b hb
    | error e => exact herror e w' b hb

/-- What is done last keeps what was said of the value. -/
theorem thereafter {x : Effect s α} {last : Effect s Unit} (hx : Gives P x)
    (hl : ∀ a w, P a w → P a (last w).2) : Gives P (Effect.thereafter x last) := by
  intro w a ha
  rw [thereafter_apply] at ha ⊢
  dsimp only at ha ⊢
  split at ha
  · exact hl a _ (hx w a ha)
  · cases ha

end Gives

/-- What follows a value needs to move only from states that the value was given in. -/
theorem Moves.bind_of_gives {R : s → s → Prop} [IsTrans s R] {P : α → s → Prop} {x : Effect s α}
    {f : α → Effect s β} (hx : Moves R x) (hp : Gives P x) (hf : ∀ a w, P a w → R w (f a w).2) :
    Moves R (x >>= f) := by
  intro w
  have hxw := hx w
  cases h : x w with
  | mk r w' =>
    rw [h] at hxw
    cases r with
    | ok a =>
      have hpa : P a w' := by simpa [h] using hp w a (by rw [h])
      rw [bind_of_ok h]
      exact trans_of R hxw (hf a w' hpa)
    | error e =>
      rw [bind_of_error h]
      exact hxw

end ResilientCalls.Effect

namespace ResilientCalls.Retry

open Effect

variable {s α : Type} {R : s → s → Prop} [Std.Refl R] [IsTrans s R]

/-- The events of the records that a retried action leaves. -/
def events : List String :=
  ["Operation failed after max attempts", "Operation failed permanently", "Retrying operation"]

/-- What a retried action depends on moves along a relation. -/
structure Hooks.Move (R : s → s → Prop) (h : Hooks s) : Prop where
  shouldRetry : ∀ f, Moves R (h.shouldRetry f)
  onRetry : ∀ f made, Moves R (h.onRetry f made)
  wait : ∀ d, Moves R (h.wait d)
  log : ∀ r : LogRecord, r.event ∈ events → Moves R (h.log r)

theorem moves_pause (p : Policy) {h : Hooks s} (hh : h.Move R) (f : Failure) (made : Nat) :
    Moves R (pause p h f made) := by
  refine Moves.bind (Moves.ofExcept _) fun delay => ?_
  refine Moves.bind (hh.onRetry f made) fun _ => ?_
  refine Moves.bind (hh.log _ (by simp [events, retrying, describe])) fun _ => ?_
  split
  · exact hh.wait _
  · exact Moves.pure _

/-- From where an attempt has ended, the rest moves as the pauses and the attempts do. -/
theorem moves_after_attempt (p : Policy) {h : Hooks s} (hh : h.Move R) {action : Effect s α}
    (ha : Moves R action) (made left : Nat) (w : s) :
    R (action w).2 (attemptFrom p h action made left w).2 := by
  induction left generalizing made w with
  | zero =>
    refine Moves.after_ending (fun r => ?_) w
    rcases r with (f | _) | a
    · exact Moves.bind (hh.log _ (by simp [events, exhausted, describe])) fun _ => Moves.fail f
    · exact Moves.stop _
    · exact Moves.pure a
  | succ left ih =>
    refine Moves.after_ending (fun r => ?_) w
    rcases r with (f | _) | a
    · refine Moves.bind (hh.shouldRetry f) fun again => ?_
      split
      · refine Moves.bind (moves_pause p hh f made) fun _ w => ?_
        exact trans_of R (ha w) (ih (made + 1) w)
      · exact Moves.bind (hh.log _ (by simp [events, declined, describe])) fun _ => Moves.fail f
    · exact Moves.stop _
    · exact Moves.pure a

theorem moves_attemptFrom (p : Policy) {h : Hooks s} (hh : h.Move R) {action : Effect s α}
    (ha : Moves R action) (made left : Nat) : Moves R (attemptFrom p h action made left) :=
  fun w => trans_of R (ha w) (moves_after_attempt p hh ha made left w)

theorem moves_run (p : Policy) {h : Hooks s} (hh : h.Move R) {action : Effect s α}
    (ha : Moves R action) : Moves R (run p h action) := moves_attemptFrom p hh ha 1 _

omit [Std.Refl R] [IsTrans s R] in
theorem gives_run (p : Policy) (h : Hooks s) {Q : α → s → Prop} {action : Effect s α}
    (ha : Gives Q action) : Gives Q (run p h action) := by
  unfold run
  generalize p.limit - 1 = left
  generalize 1 = made
  have hgiven : ∀ a w, Q a w → ∀ b, ((Pure.pure a : Effect s α) w).1 = .ok b →
      Q b ((Pure.pure a : Effect s α) w).2 := by
    intro a w h b hb
    obtain rfl := Except.ok.inj hb
    exact h
  -- an attempt that fails gives nothing, so only the one that ends the run counts
  induction left generalizing made with
  | zero =>
    refine Gives.ending_bind ha hgiven fun e => ?_
    rcases e with f | _
    · exact Gives.after _ fun _ => Gives.fail f
    · exact Gives.stop _
  | succ left ih =>
    refine Gives.ending_bind ha hgiven fun e => ?_
    rcases e with f | _
    · refine Gives.after _ fun again => ?_
      split
      · exact Gives.after _ fun _ => ih (made + 1)
      · exact Gives.after _ fun _ => Gives.fail f
    · exact Gives.stop _

end ResilientCalls.Retry
