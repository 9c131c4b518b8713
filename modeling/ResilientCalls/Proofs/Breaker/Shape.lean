import ResilientCalls.Proofs.Breaker.Allowance

namespace ResilientCalls.Breaker

open Effect World

variable {τ σ : Type}

/-- An instant of opening and a count of failures are those of their phases. -/
structure State.Shaped (s : State τ) : Prop where
  openedAt : s.openedAt.isSome = true ↔ s.phase = .opened
  failures : s.phase ≠ .closed → s.failures = 0

variable [Clock τ]

namespace Change

variable {now : τ} {k : Config} {s s' : State τ} {u : Use τ}

theorem shaped (hc : Change now k s u s') (h : s.Shaped) : s'.Shaped := by
  cases hc with
  | probed _ _ _ _ | recovered _ _ | resetOther _ => exact ⟨by simp, fun _ => rfl⟩
  | tripped _ _ _ | relapsed _ _ => exact ⟨by simp, fun _ => rfl⟩
  | cleared _ hp | resetClosed hp => exact ⟨h.openedAt, fun _ => rfl⟩
  | counted _ hp _ => exact ⟨h.openedAt, fun hne => absurd hp hne⟩
  | joined _ _ _ | freed _ => exact ⟨h.openedAt, h.failures⟩
  | checked | passed _ | configured _ | stayed _ | freedNothing _ | successIgnored _
  | failureIgnored _ => exact h

/-- Failures that are counted do not reach the threshold in force. -/
theorem failures_below (hc : Change now k s u s') :
    s'.failures = s.failures ∨ s'.failures.reaches k.threshold = false := by
  have hzero := Number.zero_reaches_eq_false k.threshold_inRange
  cases hc with
  | probed _ _ _ _ | cleared _ _ | recovered _ _ | tripped _ _ _ | relapsed _ _ | resetClosed _
  | resetOther _ => exact Or.inr hzero
  | counted _ _ hr => exact Or.inr hr
  | checked | passed _ | configured _ | stayed _ | joined _ _ _ | freedNothing _ | freed _
  | successIgnored _ | failureIgnored _ => exact Or.inl rfl

end Change

namespace Session

/-- A configuration that was in force at some moment of a session. -/
def InForce (h : Session τ σ) (us : List (Use τ)) (k : Config) : Prop :=
  ∃ vs, vs <+: us ∧ ∃ c, (h.run vs).cell? = some c ∧ c.config = k

theorem InForce.append {h : Session τ σ} {us : List (Use τ)} {k : Config} (hk : h.InForce us k)
    (vs : List (Use τ)) : h.InForce (us ++ vs) k := by
  obtain ⟨ws, hws, hc⟩ := hk
  exact ⟨ws, hws.trans (List.prefix_append us vs), hc⟩

theorem run_shaped (w : World τ σ) (config : Config) (us : List (Use τ)) :
    ∃ c, ((start w config).run us).cell? = some c ∧ c.state.Shaped := by
  refine run_induction (P := fun c _ => c.state.Shaped) (cell?_start w config) ?_ ?_
  · exact ⟨by simp [State.fresh], fun _ => rfl⟩
  · intro u _ now c ts c' ts' h ht
    exact (Change.of_turn ht).shaped h

theorem run_below (w : World τ σ) (config : Config) (us : List (Use τ)) :
    ∃ c, ((start w config).run us).cell? = some c ∧
      ∃ k, (start w config).InForce us k ∧ c.state.failures.reaches k.threshold = false := by
  apply run_history (P := fun us c => ∃ k, (start w config).InForce us k ∧
    c.state.failures.reaches k.threshold = false) (cell?_start w config)
  · refine ⟨config, ⟨[], List.nil_prefix, _, cell?_start w config, rfl⟩, ?_⟩
    exact Number.zero_reaches_eq_false config.threshold_inRange
  · intro us u c c' hc _ h ht
    rcases (Change.of_turn ht).failures_below with hf | hf
    · obtain ⟨k, hk, hbelow⟩ := h
      exact ⟨k, hk.append [u], by rw [hf]; exact hbelow⟩
    · exact ⟨c.config, InForce.append ⟨us, List.prefix_rfl, c, hc, rfl⟩ [u], hf⟩

theorem enter_error_registry {h : Session τ σ} {c : Cell τ} (hc : h.cell? = some c) {e : Stop}
    {w' : World τ σ} (he : Breaker.enter h.id h.world = (.error e, w'))
    (hr : h.world.Delivers ∨ c.state.verdict c.config h.world.now ≠ .ok .granted) :
    w'.registry = h.world.registry := by
  have hentry : Entry h.id h.world c (Breaker.enter h.id h.world) := entry hc
  rw [he] at hentry
  cases hentry with
  | refused _ _ _ _ ho => exact ho.registry
  | unannounced _ _ hen hv _ =>
    rcases hr with hd | hne
    · obtain ⟨w₁, hok, -⟩ := enter_of_granted hc hen hv hd
      rw [he] at hok
      cases hok
    · exact absurd hv hne

/-- The fields of a breaker agree with its phase in every session that begins with it new. Its
counts are not below zero, and it has counted fewer failures than the largest threshold, in whole
numbers, that was in force by then. To ask whether it would admit a call changes none of its fields,
nor does to be refused. -/
theorem fields_agree (w : World τ σ) (config : Config) (us : List (Use τ)) :
    let h := (start w config).run us
    ∃ c, h.cell? = some c ∧
      (c.state.openedAt.isSome = true ↔ c.state.phase = .opened) ∧
      ∃ failures inFlight : Nat,
        c.state.failures = .whole failures ∧ c.state.inFlight = .whole inFlight ∧
        (0 < inFlight → c.state.phase = .halfOpen) ∧
        (0 < failures → c.state.phase = .closed) ∧
        (∃ k, (start w config).InForce us k ∧ c.state.failures.reaches k.threshold = false) ∧
        (∀ largest : Int, (∀ k, (start w config).InForce us k →
            ∃ threshold, k.threshold.value = .inl threshold ∧ threshold ≤ largest) →
          failures < largest) ∧
        (Breaker.check h.id h.world).2.registry = h.world.registry ∧
        ∀ e w', Breaker.enter h.id h.world = (.error e, w') →
          h.world.Delivers ∨ c.state.verdict c.config h.world.now ≠ .ok .granted →
          w'.registry = h.world.registry := by
  intro h
  obtain ⟨c, hc, hshape⟩ := run_shaped w config us
  obtain ⟨c₁, hc₁, ha⟩ := run_accounted w config us
  obtain rfl : c = c₁ := Option.some.inj (hc.symm.trans hc₁)
  obtain ⟨c₂, hc₂, failures, hf⟩ := run_counts w config us
  obtain rfl : c = c₂ := Option.some.inj (hc.symm.trans hc₂)
  obtain ⟨c₃, hc₃, hbelow⟩ := run_below w config us
  obtain rfl : c = c₃ := Option.some.inj (hc.symm.trans hc₃)
  refine ⟨c, hc, hshape.openedAt, failures, outstanding c.state.transitions h.tickets, hf,
    ha.counted, ha.halfOpen, ?_, hbelow, ?_, (moves_check h.id h.world).registry, ?_⟩
  · intro hpos
    by_contra hp
    have hzero := hf.symm.trans (hshape.failures hp)
    have : (failures : Int) = 0 := Number.whole.inj hzero
    omega
  · intro largest hlargest
    obtain ⟨k, hk, hreach⟩ := hbelow
    obtain ⟨threshold, ht, hle⟩ := hlargest k hk
    rw [hf, Number.reaches_of_values rfl ht, decide_eq_false_iff_not] at hreach
    omega
  · intro e w' he hr
    exact enter_error_registry hc he hr

end Session

end ResilientCalls.Breaker
