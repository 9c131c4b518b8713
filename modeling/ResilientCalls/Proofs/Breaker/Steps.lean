import ResilientCalls.Proofs.Observation

namespace ResilientCalls.Breaker

variable {τ σ α : Type}

namespace Registry

theorem cell?_setState (r : Registry τ) (id j : Id) (s : State τ) :
    (r.setState id s).cell? j =
      if id = j then (r.cell? j).map fun c => { c with state := s } else r.cell? j := by
  simp only [setState, modifyState, cell?, List.getElem?_modify]
  split <;> simp

theorem cell?_setState_self {r : Registry τ} {id : Id} {c : Cell τ} (h : r.cell? id = some c)
    (s : State τ) : (r.setState id s).cell? id = some { c with state := s } := by
  rw [cell?_setState, if_pos rfl, h, Option.map_some]

theorem setState_setState (r : Registry τ) (id : Id) (s t : State τ) :
    (r.setState id s).setState id t = r.setState id t := by
  simp only [setState, modifyState, List.modify_modify_eq]
  rfl

theorem cell?_setConfig (r : Registry τ) (id j : Id) (k : Config) :
    (r.setConfig id k).cell? j =
      if id = j then (r.cell? j).map fun c => { c with config := k } else r.cell? j := by
  simp only [setConfig, cell?, List.getElem?_modify]
  split <;> simp

theorem cell?_setConfig_self {r : Registry τ} {id : Id} {c : Cell τ} (h : r.cell? id = some c)
    (k : Config) : (r.setConfig id k).cell? id = some { c with config := k } := by
  rw [cell?_setConfig, if_pos rfl, h, Option.map_some]

theorem cell?_add_self (r : Registry τ) (k : Config) :
    (r.add k).1.cell? (r.add k).2 = some ⟨k.key, k, .fresh⟩ := by
  simp [add, cell?]

end Registry

open Effect World

namespace Guard

variable {s : Type} {g : Guard s} {body : Effect s α} {w w₁ w₂ : s}

theorem hold_of_ok {t : Ticket} (h : g.enter w = (.ok t, w₁)) (body : Effect s α) :
    g.hold body w = Effect.thereafter body (g.release t) w₁ := bind_of_ok h _

theorem hold_of_error {e : Stop} (h : g.enter w = (.error e, w₁)) (body : Effect s α) :
    g.hold body w = (.error e, w₁) := bind_of_error h _

/-- A failure that can be recorded is passed on as it is. -/
theorem reporting_of_failed {f : Failure} (hb : body w = (.error (.failed f), w₁))
    (hf : g.fail w₁ = (.ok (), w₂)) : g.reporting body w = (.error (.failed f), w₂) := by
  have htry : (body >>= fun a => g.succeed >>= fun _ => Pure.pure a) w =
      (.error (.failed f), w₁) := bind_of_error hb _
  rw [Guard.reporting, ending_bind_apply, htry]
  exact bind_of_ok hf _

end Guard

variable {id : Id} {w : World τ σ} {c : Cell τ}

theorem cell_apply (id : Id) (w : World τ σ) : cell id w = (.ok (w.registry.cell? id), w) := rfl

theorem advance_apply (h : w.registry.cell? id = some c)
    (step : State τ → Config → τ → State τ × List Notice) :
    advance id step w = announceAll c (step c.state c.config w.now).2
      { w with registry := w.registry.setState id (step c.state c.config w.now).1 } := by
  simp only [advance, get_bind_apply, h, modify_bind_apply]

/-- A step of a breaker's state is a change of that state and otherwise only observed. -/
theorem advance_observed (h : w.registry.cell? id = some c)
    (step : State τ → Config → τ → State τ × List Notice) :
    Observed { w with registry := w.registry.setState id (step c.state c.config w.now).1 }
      (advance id step w).2 := by
  rw [advance_apply h]
  exact moves_announceAll _ _ _

theorem cell?_advance (h : w.registry.cell? id = some c)
    (step : State τ → Config → τ → State τ × List Notice) :
    (advance id step w).2.registry.cell? id =
      some { c with state := (step c.state c.config w.now).1 } := by
  rw [(advance_observed h step).registry]
  exact Registry.cell?_setState_self h _

theorem advance_of_none (h : w.registry.cell? id = none)
    (step : State τ → Config → τ → State τ × List Notice) : advance id step w = (.ok (), w) := by
  simp only [advance, get_bind_apply, h, pure_apply]

theorem take_eq (h : w.registry.cell? id = some c) :
    take id w =
      (.ok c.state.take.2, { w with registry := w.registry.setState id c.state.take.1 }) := by
  rw [take, bind_of_ok (cell_apply id w), h]
  rfl

theorem take_of_none (h : w.registry.cell? id = none) : take id w = (.ok ⟨none, false⟩, w) := by
  rw [take, bind_of_ok (cell_apply id w), h]
  rfl

theorem release_eq (h : w.registry.cell? id = some c) (t : Ticket) :
    release id t w = (.ok (c.state.release t).2,
      { w with registry := w.registry.setState id (c.state.release t).1 }) := by
  rw [release, bind_of_ok (cell_apply id w), h]
  rfl

theorem release_of_none (h : w.registry.cell? id = none) (t : Ticket) :
    release id t w = (.ok t, w) := by
  rw [release, bind_of_ok (cell_apply id w), h]
  rfl

theorem configure_world (h : w.registry.cell? id = some c) (k : Config) :
    (configure id k w).2 =
      if k.key.equals c.config.key then { w with registry := w.registry.setConfig id k }
      else w := by
  rw [configure, bind_of_ok (cell_apply id w), h]
  cases hk : k.key.equals c.config.key <;> simp [hk]

theorem steady_setState (w : World τ σ) (id : Id) (s : State τ) :
    Steady w { w with registry := w.registry.setState id s } := ⟨rfl, rfl, rfl, rfl, rfl⟩

theorem moves_advance (id : Id) (step : State τ → Config → τ → State τ × List Notice) :
    Moves Steady (advance id step : Run τ σ Unit) := by
  intro w
  cases h : w.registry.cell? id with
  | none =>
    rw [advance_of_none h]
    exact refl_of Steady w
  | some c => exact trans_of Steady (steady_setState w id _) (advance_observed h step).steady

theorem moves_take (id : Id) : Moves Steady (take id : Run τ σ Ticket) := by
  intro w
  cases h : w.registry.cell? id with
  | none =>
    rw [take_of_none h]
    exact refl_of Steady w
  | some c =>
    rw [take_eq h]
    exact steady_setState w id _

theorem moves_release (id : Id) (t : Ticket) : Moves Steady (release id t : Run τ σ Ticket) := by
  intro w
  cases h : w.registry.cell? id with
  | none =>
    rw [release_of_none h]
    exact refl_of Steady w
  | some c =>
    rw [release_eq h]
    exact steady_setState w id _

theorem returns_advance (id : Id) (step : State τ → Config → τ → State τ × List Notice) :
    Returns Delivers (advance id step : Run τ σ Unit) := by
  refine Returns.get_bind fun _ _ => ?_
  split
  · exact Returns.pure _
  · exact Returns.bind (Returns.modify fun _ hw => hw) fun _ => returns_announceAll _ _

theorem take_ok (id : Id) (w : World τ σ) : ∃ t, (take id w).1 = .ok t := by
  cases h : w.registry.cell? id with
  | none => exact ⟨_, by rw [take_of_none h]⟩
  | some c => exact ⟨_, by rw [take_eq h]⟩

theorem release_ok (id : Id) (t : Ticket) (w : World τ σ) : ∃ t', (release id t w).1 = .ok t' := by
  cases h : w.registry.cell? id with
  | none => exact ⟨t, by rw [release_of_none h]⟩
  | some c => exact ⟨_, by rw [release_eq h]⟩

variable [Clock τ]

theorem guard_release (id : Id) (t : Ticket) (w : World τ σ) :
    (guard id).release t w = (.ok (), (release id t w).2) := by
  obtain ⟨t', ht⟩ := release_ok id t w
  show (release id t >>= fun _ => Pure.pure ()) w = _
  rw [bind_of_ok (Prod.ext ht rfl)]
  rfl

theorem moves_guard_release (id : Id) (t : Ticket) :
    Moves Steady ((guard id : Guard (World τ σ)).release t) :=
  Moves.bind (moves_release id t) fun _ => Moves.pure _

theorem moves_check (id : Id) : Moves Observed (check id : Run τ σ Unit) := by
  refine Moves.bind Moves.get fun w => ?_
  split
  · exact Moves.pure _
  · refine Moves.bind (Moves.ofExcept _) fun v => ?_
    split
    · exact Moves.pure _
    · exact Moves.bind (moves_announce _ _) fun _ => Moves.fail _

/-- A check that passes has found the breaker granting, and changes nothing. -/
theorem check_granted (h : w.registry.cell? id = some c)
    (hv : c.state.verdict c.config w.now = .ok .granted) : check id w = (.ok (), w) := by
  simp only [check, get_bind_apply, h, hv, ofExcept_ok, pure_bind, pure_apply]

theorem check_passes {w' : World τ σ} (h : w.registry.cell? id = some c)
    (hp : check id w = (.ok (), w')) : c.state.verdict c.config w.now = .ok .granted := by
  simp only [check, get_bind_apply, h] at hp
  cases hv : c.state.verdict c.config w.now with
  | error f => simp [hv] at hp
  | ok v =>
    cases v with
    | granted => rfl
    | refused ms =>
      simp only [hv, ofExcept_ok, pure_bind] at hp
      cases ha : announce c (.blocked c.state.phase ms) w with
      | mk r w₁ =>
        cases r with
        | ok u => rw [bind_of_ok ha] at hp; simp at hp
        | error e => rw [bind_of_error ha] at hp; simp at hp

theorem moves_enter (id : Id) : Moves Steady (enter id : Run τ σ Ticket) := by
  refine Moves.bind Moves.get fun _ => ?_
  split
  · exact Moves.pure _
  · split
    · exact Moves.pure _
    · refine Moves.bind ((moves_check id).mono fun _ _ h => h.steady) fun _ => ?_
      exact Moves.bind (moves_advance id _) fun _ => moves_take id

/-- What asking for admission does. A breaker that is switched off admits without a slot; a slot is
taken only when the breaker has granted and its change of phase has been announced. -/
inductive Entry (id : Id) (w : World τ σ) (c : Cell τ) : Except Stop Ticket × World τ σ → Prop where
  | unguarded : c.config.isEnabled = false → Entry id w c (.ok ⟨none, false⟩, w)
  | refused (e : Stop) (w' : World τ σ) : c.config.isEnabled = true →
      c.state.verdict c.config w.now ≠ .ok .granted → Observed w w' → Entry id w c (.error e, w')
  | unannounced (e : Stop) (w' : World τ σ) : c.config.isEnabled = true →
      c.state.verdict c.config w.now = .ok .granted →
      Observed { w with registry := w.registry.setState id (c.state.probe w.now).1 } w' →
      Entry id w c (.error e, w')
  | admitted (w' : World τ σ) : c.config.isEnabled = true →
      c.state.verdict c.config w.now = .ok .granted →
      Observed { w with registry := w.registry.setState id (c.state.probe w.now).1.take.1 } w' →
      Entry id w c (.ok (c.state.probe w.now).1.take.2, w')

theorem enter_of_none (h : w.registry.cell? id = none) : enter id w = (.ok ⟨none, false⟩, w) := by
  rw [enter, bind_of_ok (cell_apply id w), h]
  rfl

theorem enter_of_disabled (h : w.registry.cell? id = some c) (hen : c.config.isEnabled = false) :
    enter id w = (.ok ⟨none, false⟩, w) := by
  rw [enter, bind_of_ok (cell_apply id w), h]
  simp [hen]

theorem enter_of_enabled (h : w.registry.cell? id = some c) (hen : c.config.isEnabled = true) :
    enter id w = (check id >>= fun _ => advance id (fun s _ now => s.probe now) >>= fun _ =>
      take id) w := by
  rw [enter, bind_of_ok (cell_apply id w), h]
  simp [hen]

theorem enter_of_check {e : Stop} {w' : World τ σ} (h : w.registry.cell? id = some c)
    (hen : c.config.isEnabled = true) (hck : check id w = (.error e, w')) :
    enter id w = (.error e, w') := by
  rw [enter_of_enabled h hen, bind_of_error hck]

/-- A check that passes leaves the world as it was, so the state probed is the one checked. -/
theorem enter_of_verdict (h : w.registry.cell? id = some c) (hen : c.config.isEnabled = true)
    (hv : c.state.verdict c.config w.now = .ok .granted) :
    enter id w = (advance id (fun s _ now => s.probe now) >>= fun _ => take id) w := by
  rw [enter_of_enabled h hen, bind_of_ok (check_granted h hv)]

theorem check_of_not_granted (h : w.registry.cell? id = some c)
    (hv : c.state.verdict c.config w.now ≠ .ok .granted) :
    ∃ e w', check id w = (.error e, w') := by
  cases hck : check id w with
  | mk r w' =>
    cases r with
    | ok u => exact absurd (check_passes h hck) hv
    | error e => exact ⟨e, w', rfl⟩

theorem entry (h : w.registry.cell? id = some c) : Entry id w c (enter id w) := by
  cases hen : c.config.isEnabled with
  | false =>
    rw [enter_of_disabled h hen]
    exact Entry.unguarded hen
  | true =>
    by_cases hv : c.state.verdict c.config w.now = .ok .granted
    · rw [enter_of_verdict h hen hv]
      have hadv := advance_observed h fun s _ now => s.probe now
      cases ha : advance id (fun s _ now => s.probe now) w with
      | mk r w₂ =>
        rw [ha] at hadv
        cases r with
        | error e =>
          rw [bind_of_error ha]
          exact Entry.unannounced e w₂ hen hv hadv
        | ok u =>
          have hc : w₂.registry.cell? id = some { c with state := (c.state.probe w.now).1 } := by
            rw [hadv.registry]
            exact Registry.cell?_setState_self h _
          rw [bind_of_ok ha, take_eq hc]
          refine Entry.admitted _ hen hv ⟨hadv.now, ?_, hadv.delivery, hadv.processFlags,
            hadv.environment, hadv.outside⟩
          show w₂.registry.setState id _ = _
          rw [hadv.registry]
          exact Registry.setState_setState _ _ _ _
    · obtain ⟨e, w₁, hck⟩ := check_of_not_granted h hv
      have hobs := moves_check id w
      rw [hck] at hobs
      rw [enter_of_check h hen hck]
      exact Entry.refused e w₁ hen hv hobs

/-- Admission that is granted succeeds if it can be announced. -/
theorem enter_of_granted (h : w.registry.cell? id = some c) (hen : c.config.isEnabled = true)
    (hv : c.state.verdict c.config w.now = .ok .granted) (hw : w.Delivers) :
    ∃ w', enter id w = (.ok (c.state.probe w.now).1.take.2, w') ∧
      Observed { w with registry := w.registry.setState id (c.state.probe w.now).1.take.1 } w' := by
  have hok : ∃ t, (enter id w).1 = .ok t := by
    obtain ⟨-, u, hu⟩ := returns_advance id (fun s _ now => s.probe now) w hw
    rw [enter_of_verdict h hen hv, bind_of_ok (Prod.ext hu rfl)]
    exact take_ok id _
  obtain ⟨t, ht⟩ := hok
  have he : Entry id w c (enter id w) := entry h
  cases hr : enter id w with
  | mk r w' =>
    rw [hr] at he ht
    cases he with
    | unguarded hdis => simp [hdis] at hen
    | refused e _ _ _ _ => cases ht
    | unannounced e _ _ _ _ => cases ht
    | admitted _ _ _ ho => exact ⟨w', rfl, ho⟩

theorem check_refused (h : w.registry.cell? id = some c) {ms : Option Nat}
    (hv : c.state.verdict c.config w.now = .ok (.refused ms)) (hw : w.Delivers) :
    ∃ w', check id w = (.error (.failed
        (.circuitOpen c.config.key c.state.phase.name (ms.map Int.ofNat))), w') ∧
      announce c (.blocked c.state.phase ms) w = (.ok (), w') := by
  obtain ⟨-, u, hu⟩ := returns_announce c (.blocked c.state.phase ms) w hw
  refine ⟨_, ?_, Prod.ext hu rfl⟩
  simp only [check, get_bind_apply, h, hv, ofExcept_ok, pure_bind]
  rw [bind_of_ok (Prod.ext hu rfl)]
  rfl

theorem check_ne_cancelled (id : Id) (hw : w.Delivers) : (check id w).1 ≠ .error .cancelled := by
  cases hc : w.registry.cell? id with
  | none => simp [check, get_bind_apply, hc]
  | some c =>
    cases hv : c.state.verdict c.config w.now with
    | error f => simp [check, get_bind_apply, hc, hv]
    | ok v =>
      cases v with
      | granted => simp [check_granted hc hv]
      | refused ms =>
        obtain ⟨w', hcheck, -⟩ := check_refused hc hv hw
        simp [hcheck]

theorem enter_ne_cancelled (id : Id) (hw : w.Delivers) : (enter id w).1 ≠ .error .cancelled := by
  cases hc : w.registry.cell? id with
  | none => simp [enter_of_none hc]
  | some c =>
    cases hen : c.config.isEnabled with
    | false => simp [enter_of_disabled hc hen]
    | true =>
      by_cases hv : c.state.verdict c.config w.now = .ok .granted
      · obtain ⟨w', henter, -⟩ := enter_of_granted hc hen hv hw
        simp [henter]
      · obtain ⟨e, w', hck⟩ := check_of_not_granted hc hv
        have hstop := check_ne_cancelled id hw
        rw [hck] at hstop
        rw [enter_of_check hc hen hck]
        simpa using hstop

end ResilientCalls.Breaker
