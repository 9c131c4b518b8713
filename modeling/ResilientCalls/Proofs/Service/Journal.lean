import ResilientCalls.Proofs.Breaker.Steps
import ResilientCalls.Proofs.Outside

namespace ResilientCalls

open Effect World

variable {ε τ σ α β : Type}

/-- A provider that never answers. -/
def Provider.silent (name : String) : Provider τ σ where
  name := name
  generate _ _ _ := Effect.fail (.timeout name "30000")
  translate _ := Effect.fail (.timeout name "30000")

/-- How a reply of a provider, or an attempt, ends. -/
inductive Ending where
  | returned
  | failed (f : Failure)
  | cancelled

def Ending.of : Except Stop α → Ending
  | .ok _ => .returned
  | .error (.failed f) => .failed f
  | .error .cancelled => .cancelled

namespace Journal

theorem eq_of_ending {r : Except Stop α} {f : Failure} (h : Ending.of r = .failed f) :
    r = .error (.failed f) := by
  rcases r with (f' | _) | a
  · obtain rfl := Ending.failed.inj h
    rfl
  · cases h
  · cases h

theorem eq_of_returned {r : Except Stop α} (h : Ending.of r = .returned) : ∃ a, r = .ok a := by
  rcases r with (f | _) | a
  · cases h
  · cases h
  · exact ⟨a, rfl⟩

/-- A world whose outside has a journal. -/
abbrev Noted (ε τ σ : Type) := World τ (List ε × σ)

/-- A world with the given journal. -/
def withJournal (js : List ε) (w : World τ σ) : Noted ε τ σ := w.mapOutside (js, ·)

/-- The world without its journal. -/
def without (w : Noted ε τ σ) : World τ σ := w.mapOutside Prod.snd

def note (e : ε) : Run τ (List ε × σ) Unit :=
  Effect.modify fun w => { w with outside := (w.outside.1 ++ [e], w.outside.2) }

/-- A computation that does not know of the journal. -/
def blind (x : Run τ σ α) : Run τ (List ε × σ) α := fun w =>
  ((x (without w)).1, withJournal w.outside.1 (x (without w)).2)

/-- A reply, with what it is to be noted as. -/
def replying (event : Except Stop α → ε) (x : Run τ σ α) : Run τ (List ε × σ) α := do
  let r ← Effect.ending (blind x)
  note (event r)
  Effect.conclude r

theorem replying_apply (event : Except Stop α → ε) (x : Run τ σ α) (w : Noted ε τ σ) :
    replying event x w = ((x (without w)).1,
      withJournal (w.outside.1 ++ [event (x (without w)).1]) (x (without w)).2) := by
  rw [replying, ending_bind_apply]
  show (Effect.conclude (x (without w)).1) _ = _
  rw [conclude_apply]
  rfl

/-- A provider whose replies are noted. -/
def noting (answered : Except Stop CodePoints → ε)
    (translated : Except Stop (List Localization.Result) → ε) (p : Provider τ σ) :
    Provider τ (List ε × σ) where
  name := p.name
  generate system user json := replying answered (p.generate system user json)
  translate b := replying translated (p.translate b)

theorem mirrors_blind (x : Run τ σ α) :
    Mirrors Prod.snd (blind x : Run τ (List ε × σ) α) x := fun _ => rfl

theorem mirrors_note {e : ε} {f : Unit → Run τ (List ε × σ) α} {y : Run τ σ α}
    (h : Mirrors Prod.snd (f ()) y) : Mirrors Prod.snd (note e >>= f) y := by
  intro w
  exact h { w with outside := (w.outside.1 ++ [e], w.outside.2) }

theorem mirrors_ending_bind {m : β → σ} {x : Run τ β α} {y : Run τ σ α}
    {f : Except Stop α → Run τ β α} (hx : Mirrors m x y)
    (hf : ∀ r, Mirrors m (f r) (Effect.conclude r)) : Mirrors m (Effect.ending x >>= f) y := by
  intro w
  have hr := hf (x w).1 (x w).2
  rw [hx w, ending_bind_apply, ← hr, conclude_apply]

theorem mirrors_replying (event : Except Stop α → ε) (x : Run τ σ α) :
    Mirrors Prod.snd (replying event x) x :=
  mirrors_ending_bind (mirrors_blind x) fun r => mirrors_note (Follows.conclude r)

theorem mirror_noting (answered : Except Stop CodePoints → ε)
    (translated : Except Stop (List Localization.Result) → ε) (p : Provider τ σ) :
    (noting answered translated p).Mirror Prod.snd p where
  name := rfl
  generate _ _ _ := mirrors_replying _ _
  translate _ := mirrors_replying _ _

/-- A computation that mirrors another one but for the journal does what the other one does. -/
theorem run_of_mirrors {x : Run τ (List ε × σ) α} {y : Run τ σ α} (hm : Mirrors Prod.snd x y)
    {w : World τ σ} {r : Except Stop α} {w' : Noted ε τ σ} (hx : x (withJournal [] w) = (r, w')) :
    y w = (r, without w') := by
  have hy := hm (withJournal [] w)
  rw [hx] at hy
  exact hy

theorem journal_of_mirrors {x : Run τ (List ε × σ) α} {y : Run τ σ α} (hm : Mirrors Prod.snd x y)
    {w : World τ σ} {js : List ε} (hjs : (x (withJournal [] w)).2.outside.1 = js) :
    x (withJournal [] w) = ((y w).1, withJournal js (y w).2) := by
  rw [run_of_mirrors hm (Prod.eta (x (withJournal [] w))).symm, ← hjs]
  rfl

/-- While metrics are delivered, what is added to the journal is as `Q` says of the way in which the
computation ends. -/
def Writes (x : Run τ (List ε × σ) α) (Q : Except Stop α → List ε → Prop) : Prop :=
  ∀ w : Noted ε τ σ, w.Delivers → (x w).2.Delivers ∧
    ∃ js, (x w).2.outside.1 = w.outside.1 ++ js ∧ Q (x w).1 js

namespace Writes

variable {x : Run τ (List ε × σ) α} {Q P : Except Stop α → List ε → Prop}

theorem mono (hx : Writes x Q) (h : ∀ r js, Q r js → P r js) : Writes x P := by
  intro w hw
  obtain ⟨hd, js, hjs, hq⟩ := hx w hw
  exact ⟨hd, js, hjs, h _ js hq⟩

theorem of_steady (hx : Moves Steady x) (h : ∀ w, w.Delivers → Q (x w).1 []) : Writes x Q := by
  intro w hw
  refine ⟨(hx w).delivers hw, [], ?_, h w hw⟩
  rw [(hx w).outside, List.append_nil]

theorem conclude (r : Except Stop α) (h : Q r []) :
    Writes (Effect.conclude r : Run τ (List ε × σ) α) Q := by
  refine of_steady (Moves.conclude r) fun w _ => ?_
  rw [conclude_apply]
  exact h

theorem bind {f : α → Run τ (List ε × σ) β} {P : Except Stop β → List ε → Prop}
    (hx : Writes x Q) (hf : ∀ a js, Q (.ok a) js → Writes (f a) fun r ks => P r (js ++ ks))
    (he : ∀ e js, Q (.error e) js → P (.error e) js) : Writes (x >>= f) P := by
  intro w hw
  obtain ⟨hd, js, hjs, hq⟩ := hx w hw
  cases h : x w with
  | mk r w' =>
    rw [h] at hd hjs hq
    cases r with
    | ok a =>
      rw [bind_of_ok h]
      obtain ⟨hd', ks, hks, hp⟩ := hf a js hq w' hd
      exact ⟨hd', js ++ ks, by rw [hks, hjs, List.append_assoc], hp⟩
    | error e =>
      rw [bind_of_error h]
      exact ⟨hd, js, hjs, he e js hq⟩

theorem ending_bind {f : Except Stop α → Run τ (List ε × σ) β}
    {P : Except Stop β → List ε → Prop} (hx : Writes x Q)
    (hf : ∀ r js, Q r js → Writes (f r) fun s ks => P s (js ++ ks)) :
    Writes (Effect.ending x >>= f) P := by
  intro w hw
  obtain ⟨hd, js, hjs, hq⟩ := hx w hw
  rw [ending_bind_apply]
  obtain ⟨hd', ks, hks, hp⟩ := hf _ js hq _ hd
  exact ⟨hd', js ++ ks, by rw [hks, hjs, List.append_assoc], hp⟩

theorem note_bind {e : ε} {f : Unit → Run τ (List ε × σ) α}
    (h : Writes (f ()) fun r js => Q r (e :: js)) : Writes (note e >>= f) Q := by
  intro w hw
  obtain ⟨hd, js, hjs, hq⟩ := h { w with outside := (w.outside.1 ++ [e], w.outside.2) } hw
  refine ⟨hd, e :: js, ?_, hq⟩
  show ((f ()) _).2.outside.1 = _
  rw [hjs]
  exact List.append_assoc _ [e] js

theorem blind {x : Run τ σ α} (hx : Moves (Keeping Delivers) x) :
    Writes (blind x : Run τ (List ε × σ) α) fun _ js => js = [] := by
  intro w hw
  exact ⟨hx (without w) hw, [], (List.append_nil _).symm, rfl⟩

end Writes

theorem writes_replying {x : Run τ σ α} (hx : Moves (Keeping Delivers) x)
    (event : Except Stop α → ε) :
    Writes (replying event x) fun r js => js = [event r] := by
  refine Writes.ending_bind (Writes.blind hx) fun r js hjs => ?_
  subst hjs
  exact Writes.note_bind (Writes.conclude r rfl)

/-- What ends in a value or in a failure, but is not cancelled. -/
abbrev Calm (x : Run τ (List ε × σ) α) : Prop := Writes x fun r _ => r ≠ .error .cancelled

theorem calm_of_returns {x : Run τ (List ε × σ) α} (hm : Moves Observed x)
    (hx : Returns Delivers x) : Calm x := by
  refine Writes.of_steady (hm.mono fun _ _ h => h.steady) fun w hw => ?_
  obtain ⟨-, a, ha⟩ := hx w hw
  simp [ha]

theorem calm_blind {x : Run τ σ α} (hm : Moves (Keeping Delivers) x)
    (hx : ∀ w, (x w).1 ≠ .error .cancelled) : Calm (blind x : Run τ (List ε × σ) α) :=
  fun w hw => ⟨hm (without w) hw, [], (List.append_nil _).symm, hx (without w)⟩

theorem calm_ofExcept (r : Except Failure α) :
    Calm (Effect.ofExcept r : Run τ (List ε × σ) α) := by
  refine Writes.of_steady (Moves.ofExcept r) fun w _ => ?_
  cases r with
  | ok a => simp
  | error f => simp

theorem Calm.bind {x : Run τ (List ε × σ) α} {f : α → Run τ (List ε × σ) β} (hx : Calm x)
    (hf : ∀ a, Calm (f a)) : Calm (x >>= f) :=
  Writes.bind hx (fun a _ _ => hf a) fun e _ he => by simpa using he

/-- What returns and writes nothing. -/
abbrev Silent (x : Run τ (List ε × σ) Unit) : Prop := Writes x fun r js => r = .ok () ∧ js = []

theorem silent_of_returns {x : Run τ (List ε × σ) Unit} (hm : Moves Observed x)
    (hx : Returns Delivers x) : Silent x := by
  refine Writes.of_steady (hm.mono fun _ _ h => h.steady) fun w hw => ?_
  obtain ⟨-, u, hu⟩ := hx w hw
  exact ⟨hu, rfl⟩

theorem silent_pure : Silent (Pure.pure () : Run τ (List ε × σ) Unit) :=
  Writes.of_steady (Moves.pure ()) fun _ _ => ⟨rfl, rfl⟩

theorem silent_advance (id : Breaker.Id)
    (step : Breaker.State τ → Breaker.Config → τ → Breaker.State τ × List Breaker.Notice) :
    Silent (Breaker.advance id step : Run τ (List ε × σ) Unit) := by
  refine Writes.of_steady (Breaker.moves_advance id step) fun w hw => ?_
  obtain ⟨-, u, hu⟩ := Breaker.returns_advance id step w hw
  exact ⟨hu, rfl⟩

theorem silent_release [Clock τ] (id : Breaker.Id) (ticket : Breaker.Ticket) :
    Silent ((Breaker.guard id : Breaker.Guard (Noted ε τ σ)).release ticket) :=
  Writes.of_steady (Breaker.moves_guard_release id ticket) fun w _ =>
    ⟨congrArg Prod.fst (Breaker.guard_release id ticket w), rfl⟩

/-- What was said of an end is still said of it after what writes nothing. -/
theorem Silent.conclude {x : Run τ (List ε × σ) Unit} (hx : Silent x)
    {P : Except Stop α → List ε → Prop} (r : Except Stop α) (js : List ε) (h : P r js) :
    Writes (x >>= fun _ => Effect.conclude r) fun r ks => P r (js ++ ks) := by
  refine Writes.bind hx (fun u ks hks => ?_) fun e ks hks => ?_
  · refine Writes.conclude r ?_
    rw [hks.2, List.append_nil, List.append_nil]
    exact h
  · cases hks.1

/-- A body whose outcome is recorded without a word writes as it does alone. -/
theorem writes_reporting_of_silent {g : Breaker.Guard (Noted ε τ σ)} (hs : Silent g.succeed)
    (hf : Silent g.fail) {body : Run τ (List ε × σ) α} {P : Except Stop α → List ε → Prop}
    (hb : Writes body P) : Writes (g.reporting body) P := by
  have hrecorded : Writes (body >>= fun a => do
      g.succeed
      return a) P :=
    Writes.bind hb (fun a js h => hs.conclude (.ok a) js h) fun _ _ h => h
  refine Writes.ending_bind hrecorded fun r js h => ?_
  rcases r with (f | _) | a
  · exact hf.conclude (.error (.failed f)) js h
  · exact silent_pure.conclude (.error .cancelled) js h
  · exact silent_pure.conclude (.ok a) js h

/-- A checkpoint writes nothing, and fails by its fault alone. -/
theorem writes_checkpoint (s : Service) (stage : String) :
    Writes (s.checkpoint stage : Run τ (List ε × σ) Unit) fun r js =>
      js = [] ∧ ∀ e, r = .error e → e = .failed (.injected (s.task.name ++ "." ++ stage)) := by
  refine Writes.of_steady ((moves_inject _ _).mono fun _ _ h => h.steady) fun w _ => ⟨rfl, ?_⟩
  intro e he
  change (s.faults.inject _ w).1 = _ at he
  rw [inject_fst] at he
  split at he
  · cases he
    rfl
  · cases he

/-- What is said of an end and of the last that was written before it. It is said of every failure,
so only a value needs a reason. -/
structure Final (P : Except Stop α → List ε → Prop) : Prop where
  prepend : ∀ r js ks, P r ks → P r (js ++ ks)
  failed : ∀ f js, P (.error (.failed f)) js

namespace Final

variable {P : Except Stop α → List ε → Prop} (hP : Final P)

include hP

theorem of_error {e : Stop} (he : (.error e : Except Stop β) ≠ .error .cancelled) (js : List ε) :
    P (.error e) js := by
  cases e with
  | failed f => exact hP.failed f js
  | cancelled => exact absurd rfl he

theorem bind {x : Run τ (List ε × σ) β} {f : β → Run τ (List ε × σ) α} (hx : Calm x)
    (hf : ∀ a, Writes (f a) P) : Writes (x >>= f) P := by
  refine Writes.bind hx (fun a js _ => (hf a).mono fun r ks h => hP.prepend r js ks h) ?_
  intro e js he
  exact hP.of_error he js

/-- The last of the attempts decides. -/
theorem attemptFrom (p : Retry.Policy) {h : Retry.Hooks (Noted ε τ σ)}
    (hask : ∀ f, Calm (h.shouldRetry f)) (htell : ∀ f made, Calm (h.onRetry f made))
    (hwait : ∀ d, Calm (h.wait d)) (hlog : ∀ r, Calm (h.log r)) {action : Run τ (List ε × σ) α}
    (ha : Writes action P) (made left : Nat) :
    Writes (Retry.attemptFrom p h action made left) P := by
  have hfail : ∀ f js, Writes (Effect.fail f : Run τ (List ε × σ) α) fun r ks => P r (js ++ ks) :=
    fun f js => Writes.conclude (.error (.failed f)) (hP.failed f _)
  have hsame : ∀ r js, P r js →
      Writes (Effect.conclude r : Run τ (List ε × σ) α) fun r ks => P r (js ++ ks) := by
    intro r js h
    refine Writes.conclude r ?_
    rw [List.append_nil]
    exact h
  have hprepend : ∀ {x : Run τ (List ε × σ) α} (js : List ε), Writes x P →
      Writes x fun r ks => P r (js ++ ks) :=
    fun js hx => hx.mono fun r ks h => hP.prepend r js ks h
  -- on the attempts left: what was noted before the last one may be anything
  induction left generalizing made with
  | zero =>
    refine Writes.ending_bind ha fun r js h => ?_
    rcases r with (f | _) | a
    · exact hprepend js (hP.bind (hlog _) fun _ => hfail f [])
    · exact hsame (.error .cancelled) js h
    · exact hsame (.ok a) js h
  | succ left ih =>
    refine Writes.ending_bind ha fun r js h => ?_
    rcases r with (f | _) | a
    · refine hprepend js (hP.bind (hask f) fun again => ?_)
      split
      · refine hP.bind ?_ fun _ => ih (made + 1)
        refine Calm.bind (calm_ofExcept _) fun delay => Calm.bind (htell f made) fun _ => ?_
        refine Calm.bind (hlog _) fun _ => ?_
        split
        · exact hwait _
        · exact Writes.of_steady (Moves.pure ()) fun _ _ => by simp
      · exact hP.bind (hlog _) fun _ => hfail f []
    · exact hsame (.error .cancelled) js h
    · exact hsame (.ok a) js h

/-- A call under the guard of a breaker ends as its body does, unless it is refused. -/
theorem call [Clock τ] (id : Breaker.Id) {body : Run τ (List ε × σ) α} (hb : Writes body P) :
    Writes ((Breaker.guard id).call body) P := by
  have hreporting : Writes ((Breaker.guard id).reporting body) P :=
    writes_reporting_of_silent (silent_advance id _) (silent_advance id _) hb
  have henter : Calm (Breaker.enter id : Run τ (List ε × σ) Breaker.Ticket) :=
    Writes.of_steady (Breaker.moves_enter id) fun _ hw => Breaker.enter_ne_cancelled id hw
  -- recording and giving back write nothing, so what the body wrote is still the last
  refine hP.bind henter fun ticket => ?_
  refine Writes.ending_bind hreporting fun r js h => ?_
  exact (silent_release id ticket).conclude r js h

end Final

end Journal

end ResilientCalls
