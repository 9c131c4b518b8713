import ResilientCalls.Proofs.Breaker.Slots

namespace ResilientCalls

namespace Breaker

open Effect World

variable {τ σ α : Type}

namespace State

variable {s s' : State τ}

/-- A breaker with no slot taken refuses only while it is open and switched on. -/
theorem verdict_of_idle [Clock τ] {k : Config} {now : τ} (hn : s.inFlight = 0)
    (h : s.verdict k now ≠ .ok .granted) :
    k.isEnabled = true ∧ s.phase = .opened ∧ s.remainingMs k now ≠ .ok 0 := by
  unfold verdict at h
  cases hen : k.isEnabled with
  | false => simp [hen] at h
  | true =>
    simp only [hen, Bool.not_true, Bool.false_eq_true, if_false] at h
    cases hp : s.phase with
    | closed => simp [hp] at h
    | opened =>
      refine ⟨rfl, rfl, fun hr => ?_⟩
      simp [hp, hr] at h
    | halfOpen =>
      simp only [hp] at h
      rw [hn, Number.zero_reaches_eq_false k.probes_inRange] at h
      simp at h

/-- A slot that is taken, and given back after what settles the state, leaves the state settled. -/
theorem take_release_settles {n : Nat} (hn : s.inFlight = .whole n) (h : s.take.1.Settles s') :
    s.Settles (s'.release s.take.2).1 := by
  unfold take at h ⊢
  split_ifs at h ⊢ with hp
  · dsimp only at h ⊢
    cases h with
    | kept ht hi =>
      -- the window is still that of the ticket, whose slot comes off the count again
      have ho : Ticket.isOut ⟨some s.transitions, false⟩ s'.transitions = true := by
        simp [Ticket.isOut, ht]
      rw [release_of_isOut ho]
      refine .kept ht ?_
      show s'.inFlight.previous = s.inFlight
      rw [hi, hn]
      exact Number.previous_whole_succ n
    | renewed ht hi =>
      -- in a later window nothing is owed, and nothing is given back
      have ho : Ticket.isOut ⟨some s.transitions, false⟩ s'.transitions = false := by
        have hne : s.transitions ≠ s'.transitions := Nat.ne_of_lt ht
        simp [Ticket.isOut, hne]
      rw [release_of_not_isOut ho]
      exact .renewed ht hi
  · exact h

theorem take_inFlight {n : Nat} (hn : s.inFlight = .whole n) :
    ∃ m : Nat, s.take.1.inFlight = .whole m := by
  unfold take
  split_ifs with hp
  · exact ⟨n + 1, by rw [hn]; rfl⟩
  · exact ⟨n, hn⟩

theorem Settles.inFlight_whole (h : s.Settles s') {n : Nat} (hn : s.inFlight = .whole n) :
    ∃ m : Nat, s'.inFlight = .whole m := by
  rcases h.inFlight with hi | hi
  · exact ⟨n, hi.trans hn⟩
  · exact ⟨0, hi⟩

end State

/-- A world and a later one in which every slot that was taken in between has been given back. -/
structure Balanced (w w' : World τ σ) : Prop where
  kept : ∀ id c, w.registry.cell? id = some c → ∃ c', w'.registry.cell? id = some c' ∧
    ∀ n : Nat, c.state.inFlight = .whole n → c.state.Settles c'.state
  added : ∀ id c, w.registry.cell? id = none → w'.registry.cell? id = some c → c.state.inFlight = 0

namespace Balanced

variable {w w' : World τ σ} {id : Id} {c : Cell τ}

theorem of_cells_eq (h : w'.registry.cells = w.registry.cells) : Balanced w w' := by
  have hcell : ∀ id, w'.registry.cell? id = w.registry.cell? id := by
    intro id
    rw [Registry.cell?, Registry.cell?, h]
  refine ⟨fun id c hc => ?_, fun id c hn hc => ?_⟩
  · exact ⟨c, (hcell id).trans hc, fun _ _ => .refl _⟩
  · rw [hcell, hn] at hc
    cases hc

theorem of_observed (h : Observed w w') : Balanced w w' :=
  of_cells_eq (congrArg Registry.cells h.registry)

instance : Std.Refl (@Balanced τ σ) := ⟨fun _ => of_cells_eq rfl⟩

theorem trans {w'' : World τ σ} (h : Balanced w w') (h' : Balanced w' w'') : Balanced w w'' := by
  refine ⟨fun id c hc => ?_, fun id c hn hc => ?_⟩
  · obtain ⟨c₁, hc₁, hs₁⟩ := h.kept id c hc
    obtain ⟨c₂, hc₂, hs₂⟩ := h'.kept id c₁ hc₁
    refine ⟨c₂, hc₂, fun n hn => ?_⟩
    obtain ⟨m, hm⟩ := (hs₁ n hn).inFlight_whole hn
    exact (hs₁ n hn).trans (hs₂ m hm)
  · cases hc₁ : w'.registry.cell? id with
    | none => exact h'.added id c hc₁ hc
    | some c₁ =>
      -- a breaker that was added on the way has no slot taken, and settling keeps it so
      have hn₁ := h.added id c₁ hn hc₁
      obtain ⟨c₂, hc₂, hs⟩ := h'.kept id c₁ hc₁
      obtain rfl : c₂ = c := Option.some.inj (hc₂.symm.trans hc)
      rcases (hs 0 hn₁).inFlight with hi | hi
      · exact hi.trans hn₁
      · exact hi

instance : IsTrans (World τ σ) Balanced := ⟨fun _ _ _ => trans⟩

/-- What happens between two states of a breaker counts only by what it makes of the first. -/
theorem around {s₁ s₃ : State τ} {c' : Cell τ} (hc : w.registry.cell? id = some c)
    (h : Balanced { w with registry := w.registry.setState id s₁ } w')
    (hc' : w'.registry.cell? id = some c')
    (hs : ∀ n : Nat, c.state.inFlight = .whole n → c.state.Settles s₃) :
    Balanced w { w' with registry := w'.registry.setState id s₃ } := by
  refine ⟨fun j d hd => ?_, fun j d hn hd => ?_⟩
  · by_cases hj : id = j
    · subst hj
      obtain rfl : c = d := Option.some.inj (hc.symm.trans hd)
      exact ⟨_, Registry.cell?_setState_self hc' s₃, hs⟩
    · have hd₁ : (w.registry.setState id s₁).cell? j = some d := by
        rw [Registry.cell?_setState, if_neg hj]
        exact hd
      obtain ⟨d', hd', hs'⟩ := h.kept j d hd₁
      refine ⟨d', ?_, hs'⟩
      show (w'.registry.setState id s₃).cell? j = some d'
      rw [Registry.cell?_setState, if_neg hj]
      exact hd'
  · by_cases hj : id = j
    · subst hj
      rw [hc] at hn
      cases hn
    · have hn₁ : (w.registry.setState id s₁).cell? j = none := by
        rw [Registry.cell?_setState, if_neg hj]
        exact hn
      change (w'.registry.setState id s₃).cell? j = some d at hd
      rw [Registry.cell?_setState, if_neg hj] at hd
      exact h.added j d hn₁ hd

theorem setState (hc : w.registry.cell? id = some c) {s : State τ} (hs : c.state.Settles s) :
    Balanced w { w with registry := w.registry.setState id s } := by
  have h := around hc (refl_of Balanced { w with registry := w.registry.setState id s })
    (Registry.cell?_setState_self hc s) fun _ _ => hs
  change Balanced w { w with registry := (w.registry.setState id s).setState id s } at h
  rw [Registry.setState_setState] at h
  exact h

theorem setConfig (w : World τ σ) (id : Id) (k : Config) :
    Balanced w { w with registry := w.registry.setConfig id k } := by
  have hcell := fun j => Registry.cell?_setConfig w.registry id j k
  refine ⟨fun j c hc => ?_, fun j c hn hc => ?_⟩
  · by_cases hj : id = j
    · subst hj
      exact ⟨_, Registry.cell?_setConfig_self hc k, fun _ _ => .refl _⟩
    · exact ⟨c, by simp [hcell, hj, hc], fun _ _ => .refl _⟩
  · simp [hcell, hn] at hc

theorem add (w : World τ σ) (k : Config) :
    Balanced w { w with registry := (w.registry.add k).1 } := by
  refine ⟨fun j c hc => ?_, fun j c hn hc => ?_⟩
  · have hlt : j < w.registry.cells.length := (List.getElem?_eq_some_iff.1 hc).1
    refine ⟨c, ?_, fun _ _ => .refl _⟩
    show (w.registry.cells ++ _)[j]? = some c
    rw [List.getElem?_append_left hlt]
    exact hc
  · have hle : w.registry.cells.length ≤ j := List.getElem?_eq_none_iff.1 hn
    change (w.registry.cells ++ _)[j]? = some c at hc
    rw [List.getElem?_append_right hle] at hc
    rw [List.mem_singleton.1 (List.mem_of_getElem? hc)]
    rfl

end Balanced

variable (id : Id)

theorem moves_advance_balanced {step : State τ → Config → τ → State τ × List Notice}
    (hs : ∀ s k now, State.Settles s (step s k now).1) :
    Moves Balanced (advance id step : Run τ σ Unit) := by
  intro w
  cases hc : w.registry.cell? id with
  | none =>
    rw [advance_of_none hc]
    exact refl_of Balanced w
  | some c =>
    have ho := Balanced.of_observed (advance_observed hc step)
    exact (Balanced.setState hc (hs _ _ _)).trans ho

theorem moves_configure_balanced (k : Config) :
    Moves Balanced (configure id k : Run τ σ Unit) := by
  refine Moves.bind Moves.get fun _ => ?_
  split
  · exact Moves.pure _
  · split
    · exact Moves.fail _
    · exact Moves.modify fun w => Balanced.setConfig w id k

theorem moves_enroll_balanced (k : Config) : Moves Balanced (enroll k : Run τ σ (Id × Bool)) := by
  refine Moves.bind ?_ fun found => ?_
  · exact Moves.bind (Moves.ofForeign _) fun _ => Moves.bind Moves.get fun _ => Moves.pure _
  · cases found with
    | some id => exact Moves.bind (moves_configure_balanced id k) fun _ => Moves.pure _
    | none =>
      intro w
      exact (Balanced.add w k).trans (.of_observed (moves_logged _ _))

theorem moves_release_slotless (used : Bool) :
    Moves Balanced (release id ⟨none, used⟩ : Run τ σ Ticket) := by
  intro w
  cases hc : w.registry.cell? id with
  | none =>
    rw [release_of_none hc]
    exact refl_of Balanced w
  | some c =>
    rw [release_eq hc]
    exact Balanced.setState hc (.refl _)

variable [Clock τ]

theorem moves_hold_balanced {body : Run τ σ α} (hb : Moves Balanced body) :
    Moves Balanced ((guard id).hold body) := by
  have hslotless : Moves Balanced
      (Effect.thereafter body ((guard id).release ⟨none, false⟩)) :=
    Moves.thereafter hb (Moves.bind (moves_release_slotless id false) fun _ => Moves.pure _)
  intro w
  cases hc : w.registry.cell? id with
  | none =>
    have henter : (guard id).enter w = (.ok ⟨none, false⟩, w) := enter_of_none hc
    rw [Guard.hold_of_ok henter]
    exact hslotless w
  | some c =>
    have he : Entry id w c ((guard id).enter w) := entry hc
    cases hr : (guard id).enter w with
    | mk r w₁ =>
      rw [hr] at he
      cases he with
      | unguarded _ =>
        rw [Guard.hold_of_ok hr]
        exact hslotless w
      | refused e _ _ _ ho =>
        rw [Guard.hold_of_error hr]
        exact .of_observed ho
      | unannounced e _ _ _ ho =>
        rw [Guard.hold_of_error hr]
        exact (Balanced.setState hc (c.state.probe_settles w.now)).trans (.of_observed ho)
      | admitted _ _ _ ho =>
        rw [Guard.hold_of_ok hr, thereafter_apply]
        generalize ht : (c.state.probe w.now).1.take.2 = t
        have hbody := (Balanced.of_observed ho).trans (hb w₁)
        cases hw₂ : body w₁ with
        | mk r₂ w₂ =>
          rw [hw₂] at hbody
          obtain ⟨c₂, hc₂, hs₂⟩ := hbody.kept id _ (Registry.cell?_setState_self hc _)
          rw [guard_release, release_eq hc₂]
          refine Balanced.around hc hbody hc₂ fun n hn => ?_
          -- the probe settles the state, and the slot is taken and given back after it
          have hprobe := c.state.probe_settles w.now
          obtain ⟨m, hm⟩ := hprobe.inFlight_whole hn
          obtain ⟨l, hl⟩ := State.take_inFlight hm
          rw [← ht]
          exact hprobe.trans (State.take_release_settles hm (hs₂ l hl))

end Breaker

end ResilientCalls
