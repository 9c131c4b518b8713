import Mathlib.Data.List.Induction
import ResilientCalls.Proofs.Breaker.Steps

namespace ResilientCalls.Breaker

variable {τ σ : Type}

/-- A use of a breaker, or the passing of time. -/
inductive Use (τ : Type) where
  | check
  | enter
  /-- Gives back the ticket that was given out at a place in order. -/
  | release (place : Nat)
  | succeed
  | fail
  | reset
  | configure (config : Config)
  | pass (now : τ)

structure Session (τ σ : Type) where
  id : Id
  world : World τ σ
  /-- The tickets that were given out, oldest first. -/
  tickets : List Ticket

namespace Session

/-- A session with a new breaker. -/
def start (w : World τ σ) (config : Config) : Session τ σ where
  id := (w.registry.add config).2
  world := { w with registry := (w.registry.add config).1 }
  tickets := []

def cell? (h : Session τ σ) : Option (Cell τ) := h.world.registry.cell? h.id

def phase? (h : Session τ σ) : Option Phase := h.cell?.map (·.state.phase)

theorem phase?_of_cell? {h : Session τ σ} {c : Cell τ} (hc : h.cell? = some c) :
    h.phase? = some c.state.phase := by
  rw [phase?, hc, Option.map_some]

theorem cell?_start (w : World τ σ) (config : Config) :
    (start w config).cell? = some ⟨config.key, config, .fresh⟩ :=
  Registry.cell?_add_self w.registry config

variable [Clock τ]

def perform (h : Session τ σ) : Use τ → Session τ σ
  | .check => { h with world := (Breaker.check h.id h.world).2 }
  | .enter =>
    match Breaker.enter h.id h.world with
    | (.ok t, w) => { h with world := w, tickets := h.tickets ++ [t] }
    | (.error _, w) => { h with world := w }
  | .release place =>
    match h.tickets[place]? with
    | none => h
    | some t =>
      match Breaker.release h.id t h.world with
      | (.ok t, w) => { h with world := w, tickets := h.tickets.set place t }
      | (.error _, w) => { h with world := w }
  | .succeed => { h with world := (recordSuccess h.id h.world).2 }
  | .fail => { h with world := (recordFailure h.id h.world).2 }
  | .reset => { h with world := (Breaker.reset h.id h.world).2 }
  | .configure config => { h with world := (Breaker.configure h.id config h.world).2 }
  | .pass now => { h with world := { h.world with now } }

def run (h : Session τ σ) (us : List (Use τ)) : Session τ σ := us.foldl perform h

theorem run_append (h : Session τ σ) (us vs : List (Use τ)) :
    h.run (us ++ vs) = (h.run us).run vs := List.foldl_append

/-- What a use at an instant can make of a breaker and of the tickets that it gave out. -/
inductive Turn (now : τ) (c : Cell τ) (ts : List Ticket) : Use τ → Cell τ → List Ticket → Prop where
  | check : Turn now c ts .check c ts
  | unguarded : c.config.isEnabled = false → Turn now c ts .enter c (ts ++ [⟨none, false⟩])
  | refused : c.config.isEnabled = true → c.state.verdict c.config now ≠ .ok .granted →
      Turn now c ts .enter c ts
  | unannounced : c.config.isEnabled = true → c.state.verdict c.config now = .ok .granted →
      Turn now c ts .enter { c with state := (c.state.probe now).1 } ts
  | admitted : c.config.isEnabled = true → c.state.verdict c.config now = .ok .granted →
      Turn now c ts .enter { c with state := (c.state.probe now).1.take.1 }
        (ts ++ [(c.state.probe now).1.take.2])
  | unknown (place : Nat) : ts[place]? = none → Turn now c ts (.release place) c ts
  | released (place : Nat) (t : Ticket) : ts[place]? = some t →
      Turn now c ts (.release place) { c with state := (c.state.release t).1 }
        (ts.set place (c.state.release t).2)
  | succeed : Turn now c ts .succeed
      { c with state := (c.state.recordSuccess c.config now).1 } ts
  | fail : Turn now c ts .fail { c with state := (c.state.recordFailure c.config now).1 } ts
  | reset : Turn now c ts .reset { c with state := (c.state.reset now).1 } ts
  | rekeyed (k : Config) : k.key.equals c.config.key = false → Turn now c ts (.configure k) c ts
  | configured (k : Config) : k.key.equals c.config.key = true →
      Turn now c ts (.configure k) { c with config := k } ts
  | pass (later : τ) : Turn now c ts (.pass later) c ts

/-- A use changes a configuration only by giving another one under the same key. -/
theorem Turn.config_eq {now : τ} {c c' : Cell τ} {ts ts' : List Ticket} {u : Use τ}
    (t : Turn now c ts u c' ts') :
    (∃ k, u = .configure k ∧ k.key.equals c.config.key = true ∧ c'.config = k) ∨
      (∀ k, u = .configure k → k.key.equals c.config.key = false) ∧ c'.config = c.config := by
  cases t with
  | configured k hk => exact Or.inl ⟨k, rfl, hk, rfl⟩
  | rekeyed k hk => exact Or.inr ⟨fun _ h => by cases h; exact hk, rfl⟩
  | _ => exact Or.inr ⟨by simp, rfl⟩

theorem turn_enter {h : Session τ σ} {c : Cell τ} (hc : h.cell? = some c) :
    ∃ c', (h.perform .enter).cell? = some c' ∧
      Turn h.world.now c h.tickets .enter c' (h.perform .enter).tickets := by
  have he : Entry h.id h.world c (Breaker.enter h.id h.world) := entry hc
  simp only [perform]
  generalize Breaker.enter h.id h.world = r at he
  cases he with
  | unguarded hen => exact ⟨c, hc, .unguarded hen⟩
  | refused e w' hen hv ho =>
    refine ⟨c, ?_, .refused hen hv⟩
    show w'.registry.cell? h.id = _
    rw [ho.registry]
    exact hc
  | unannounced e w' hen hv ho =>
    refine ⟨_, ?_, .unannounced hen hv⟩
    show w'.registry.cell? h.id = _
    rw [ho.registry]
    exact Registry.cell?_setState_self hc _
  | admitted w' hen hv ho =>
    refine ⟨_, ?_, .admitted hen hv⟩
    show w'.registry.cell? h.id = _
    rw [ho.registry]
    exact Registry.cell?_setState_self hc _

theorem turn_release {h : Session τ σ} {c : Cell τ} (hc : h.cell? = some c) (place : Nat) :
    ∃ c', (h.perform (.release place)).cell? = some c' ∧
      Turn h.world.now c h.tickets (.release place) c' (h.perform (.release place)).tickets := by
  simp only [perform]
  cases ht : h.tickets[place]? with
  | none => exact ⟨c, hc, .unknown place ht⟩
  | some t =>
    dsimp only
    rw [release_eq hc t]
    exact ⟨_, Registry.cell?_setState_self hc _, .released place t ht⟩

theorem turn_configure {h : Session τ σ} {c : Cell τ} (hc : h.cell? = some c) (k : Config) :
    ∃ c', (h.perform (.configure k)).cell? = some c' ∧
      Turn h.world.now c h.tickets (.configure k) c' (h.perform (.configure k)).tickets := by
  have hw := configure_world hc k
  cases hk : k.key.equals c.config.key with
  | false =>
    rw [hk, if_neg (by simp)] at hw
    refine ⟨c, ?_, .rekeyed k hk⟩
    simp only [perform, cell?, hw]
    exact hc
  | true =>
    rw [hk, if_pos rfl] at hw
    refine ⟨_, ?_, .configured k hk⟩
    simp only [perform, cell?, hw]
    exact Registry.cell?_setConfig_self hc k

/-- A use takes a session's breaker one turn further. -/
theorem turn_of_perform {h : Session τ σ} {c : Cell τ} (hc : h.cell? = some c) (u : Use τ) :
    ∃ c', (h.perform u).cell? = some c' ∧
      Turn h.world.now c h.tickets u c' (h.perform u).tickets := by
  cases u with
  | check =>
    refine ⟨c, ?_, .check⟩
    simp only [perform, cell?, (moves_check h.id h.world).registry]
    exact hc
  | enter => exact turn_enter hc
  | release place => exact turn_release hc place
  | succeed => exact ⟨_, Breaker.cell?_advance hc _, .succeed⟩
  | fail => exact ⟨_, Breaker.cell?_advance hc _, .fail⟩
  | reset => exact ⟨_, Breaker.cell?_advance hc _, .reset⟩
  | configure k => exact turn_configure hc k
  | pass later => exact ⟨c, hc, .pass later⟩

/-- What every turn keeps holds of the breaker after every session. -/
theorem run_induction {P : Cell τ → List Ticket → Prop} {h : Session τ σ} {c : Cell τ}
    {us : List (Use τ)} (hc : h.cell? = some c) (hp : P c h.tickets)
    (step : ∀ u ∈ us, ∀ now c ts c' ts', P c ts → Turn now c ts u c' ts' → P c' ts') :
    ∃ c', (h.run us).cell? = some c' ∧ P c' (h.run us).tickets := by
  induction us generalizing h c with
  | nil => exact ⟨c, hc, hp⟩
  | cons u us ih =>
    obtain ⟨c₁, hc₁, ht⟩ := turn_of_perform hc u
    have hp₁ := step u (List.mem_cons_self ..) _ _ _ _ _ hp ht
    exact ih hc₁ hp₁ fun v hv => step v (List.mem_cons_of_mem _ hv)

/-- What holds at first, and is kept by every turn that goes on from the uses before it, holds after
every session. -/
theorem run_history {P : List (Use τ) → Cell τ → Prop} {h : Session τ σ} {c : Cell τ}
    (hc : h.cell? = some c) (hp : P [] c)
    (step : ∀ us u c c', (h.run us).cell? = some c → (h.run (us ++ [u])).cell? = some c' →
      P us c → Turn (h.run us).world.now c (h.run us).tickets u c' (h.run (us ++ [u])).tickets →
      P (us ++ [u]) c') (us : List (Use τ)) : ∃ c', (h.run us).cell? = some c' ∧ P us c' := by
  -- on the last use, so that what was before it is a session of its own
  induction us using List.reverseRecOn with
  | nil => exact ⟨c, hc, hp⟩
  | append_singleton us u ih =>
    obtain ⟨c₁, hc₁, hp₁⟩ := ih
    obtain ⟨c₂, hc₂, ht⟩ := turn_of_perform hc₁ u
    have hlast : h.run (us ++ [u]) = (h.run us).perform u := run_append h us [u]
    rw [← hlast] at hc₂ ht
    exact ⟨c₂, hc₂, step us u c₁ c₂ hc₁ hc₂ hp₁ ht⟩

end Session

/-- A breaker that one failure opens, for a second, and that lets two probes through at a time. -/
def Config.brittle : Config where
  key := .text "summarizer:model"
  enabled := .bool true
  threshold := .whole 1
  recoveryMs := .whole 1000
  probes := .whole 2
  key_holds := by decide
  threshold_inRange := by decide
  recoveryMs_inRange := by decide
  probes_inRange := by decide

end ResilientCalls.Breaker
