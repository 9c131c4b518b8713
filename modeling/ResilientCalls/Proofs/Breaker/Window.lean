import ResilientCalls.Proofs.Binary64
import ResilientCalls.Proofs.Breaker.Changes

namespace ResilientCalls

namespace Clock

theorem roundedUp_of_rational {left : Number} {q : ℚ} (h : left.rational? = some q) :
    roundedUp left = .ok ⌈q⌉.toNat := by
  unfold Number.rational? at h
  unfold roundedUp
  cases hv : left.value with
  | inl n =>
    rw [hv] at h
    obtain rfl := Option.some.inj h
    simp
  | inr x =>
    rw [hv] at h
    simp [Binary64.ceiling?_of_rational h]

/-- The time since an opening, and what it leaves of a window, are computed without rounding. -/
structure Exact (window opened now : Number) (timeout since reading : ℚ) : Prop where
  timeout_eq : window.rational? = some timeout
  since_eq : opened.rational? = some since
  reading_eq : now.rational? = some reading
  computed : ∃ seconds ms left : Number,
    now.minus? opened = some seconds ∧ seconds.rational? = some (reading - since) ∧
    seconds.times? 1000 = some ms ∧ ms.rational? = some ((reading - since) * 1000) ∧
    window.minus? ms = some left ∧ left.rational? = some (timeout - (reading - since) * 1000)

namespace Exact

variable {window opened now : Number} {timeout since reading : ℚ}

theorem remainingMs (h : Exact window opened now timeout since reading) :
    Clock.remainingMs window opened now =
      .ok ⌈timeout - (reading - since) * 1000⌉.toNat := by
  obtain ⟨seconds, ms, left, hs, -, hm, -, hl, hq⟩ := h.computed
  have hleft : remainingSeconds window opened now = roundedUp left := by
    simp [remainingSeconds, hs, hm, hl]
  show remainingSeconds window opened now = _
  rw [hleft, roundedUp_of_rational hq]

/-- Nothing is left of a window just when its time has passed. -/
theorem remainingMs_eq_zero_iff (h : Exact window opened now timeout since reading) :
    Clock.remainingMs window opened now = .ok 0 ↔ timeout ≤ (reading - since) * 1000 := by
  rw [h.remainingMs, Except.ok.injEq, Int.toNat_eq_zero, Int.ceil_le, Int.cast_zero, sub_nonpos]

end Exact

theorem exact_whole (window opened now : Int) :
    Exact (.whole window) (.whole opened) (.whole now) window opened now where
  timeout_eq := rfl
  since_eq := rfl
  reading_eq := rfl
  computed := by
    refine ⟨.whole (now - opened), .whole ((now - opened) * 1000),
      .whole (window - (now - opened) * 1000), rfl, ?_, rfl, ?_, rfl, ?_⟩ <;>
    simp [Number.rational?, Number.value]

end Clock

namespace Breaker

variable {τ σ : Type} [Clock τ]

namespace Change

variable {now : τ} {k : Config} {s s' : State τ} {u : Use τ}

theorem opened (hc : Change now k s u s') (hp : s'.phase = .opened) :
    (u = .fail ∧ s.phase ≠ .opened ∧ s'.openedAt = some now) ∨
      (s.phase = .opened ∧ s'.openedAt = s.openedAt) := by
  cases hc with
  | tripped _ hs _ | relapsed _ hs => exact Or.inl ⟨rfl, by simp [hs], rfl⟩
  | probed _ _ _ _ | recovered _ _ | resetOther _ => cases hp
  | checked | passed _ | configured _ | stayed _ | joined _ _ _ | freedNothing _ | freed _
  | successIgnored _ | cleared _ _ | failureIgnored _ | counted _ _ _ | resetClosed _ =>
    exact Or.inr ⟨hp, rfl⟩

/-- What was open stays so, with its instant of opening, is reset, or lets a first probe through
when nothing is left of its window. -/
theorem of_opened (hc : Change now k s u s') (hp : s.phase = .opened) :
    (s'.phase = .opened ∧ s'.openedAt = s.openedAt) ∨ (u = .reset ∧ s'.phase = .closed) ∨
      (u = .enter ∧ s'.phase = .halfOpen ∧ k.isEnabled = true ∧ s.remainingMs k now = .ok 0) := by
  cases hc with
  | probed _ hen _ hr => exact Or.inr (Or.inr ⟨rfl, rfl, hen, hr⟩)
  | resetOther _ => exact Or.inr (Or.inl ⟨rfl, rfl⟩)
  | joined _ hs _ | cleared _ hs | recovered _ hs | counted _ hs _ | tripped _ hs _
  | relapsed _ hs | resetClosed hs => simp [hs] at hp
  | checked | passed _ | configured _ | stayed _ | freedNothing _ | freed _ | successIgnored _
  | failureIgnored _ => exact Or.inl ⟨hp, rfl⟩

end Change

namespace Session

/-- After these uses a breaker has been open without a break since a failure that opened it, and has
kept the instant of this. -/
def OpenSince (h : Session τ σ) (us : List (Use τ)) (opened : τ) : Prop :=
  ∃ vs ws, us = vs ++ .fail :: ws ∧ (h.run vs).phase? ≠ some .opened ∧
    (h.run vs).world.now = opened ∧
    ∀ ws', ws' <+: ws → ∃ c, (h.run (vs ++ .fail :: ws')).cell? = some c ∧
      c.state.phase = .opened ∧ c.state.openedAt = some opened

namespace OpenSince

variable {h : Session τ σ} {us : List (Use τ)} {c : Cell τ}

theorem of_failure {c₀ : Cell τ} (hc₀ : (h.run us).cell? = some c₀) (hp₀ : c₀.state.phase ≠ .opened)
    (hc : (h.run (us ++ [.fail])).cell? = some c) (hp : c.state.phase = .opened)
    (ho : c.state.openedAt = some (h.run us).world.now) :
    h.OpenSince (us ++ [.fail]) (h.run us).world.now := by
  refine ⟨us, [], rfl, ?_, rfl, ?_⟩
  · simpa [phase?_of_cell? hc₀] using hp₀
  · intro ws' hws'
    rw [List.prefix_nil.1 hws']
    exact ⟨c, hc, hp, ho⟩

theorem append {opened : τ} (ho : h.OpenSince us opened) (u : Use τ)
    (hc : (h.run (us ++ [u])).cell? = some c) (hp : c.state.phase = .opened)
    (hat : c.state.openedAt = some opened) : h.OpenSince (us ++ [u]) opened := by
  obtain ⟨vs, ws, rfl, hclosed, hnow, hkept⟩ := ho
  refine ⟨vs, ws ++ [u], by simp, hclosed, hnow, ?_⟩
  intro ws' hws'
  rcases List.prefix_concat_iff.1 hws' with rfl | hws'
  · refine ⟨c, ?_, hp, hat⟩
    rw [← hc]
    simp
  · exact hkept ws' hws'

theorem openedAt {opened : τ} (ho : h.OpenSince us opened) (hc : (h.run us).cell? = some c) :
    c.state.phase = .opened ∧ c.state.openedAt = some opened := by
  obtain ⟨vs, ws, rfl, -, -, hkept⟩ := ho
  obtain ⟨c', hc', hp, hat⟩ := hkept ws List.prefix_rfl
  obtain rfl : c = c' := Option.some.inj (hc.symm.trans hc')
  exact ⟨hp, hat⟩

end OpenSince

theorem run_openSince (w : World τ σ) (config : Config) (us : List (Use τ)) :
    ∃ c, ((start w config).run us).cell? = some c ∧
      (c.state.phase = .opened → ∃ opened, (start w config).OpenSince us opened) := by
  refine run_history (P := fun us c => c.state.phase = .opened →
    ∃ opened, (start w config).OpenSince us opened) (cell?_start w config) ?_ ?_ us
  · intro hp
    cases hp
  · intro us u c c' hc hc' h ht hp
    rcases (Change.of_turn ht).opened hp with ⟨rfl, hne, hat⟩ | ⟨hp₀, hat⟩
    · exact ⟨_, .of_failure hc hne hc' hp hat⟩
    · obtain ⟨opened, ho⟩ := h hp₀
      exact ⟨opened, ho.append u hc' hp (hat.trans (ho.openedAt hc).2)⟩

theorem OpenSince.perform {h : Session τ σ} {us : List (Use τ)} {opened : τ} {c : Cell τ}
    (ho : h.OpenSince us opened) (hc : (h.run us).cell? = some c) (u : Use τ) :
    ∃ c', ((h.run us).perform u).cell? = some c' ∧
      ((c'.state.phase = .opened ∧ c'.state.openedAt = some opened) ∨
        (u = .reset ∧ c'.state.phase = .closed) ∨
        (u = .enter ∧ c'.state.phase = .halfOpen ∧ c.config.isEnabled = true ∧
          Clock.remainingMs c.config.recoveryMs opened (h.run us).world.now = .ok 0)) := by
  obtain ⟨hp, hat⟩ := ho.openedAt hc
  obtain ⟨c', hc', ht⟩ := turn_of_perform hc u
  refine ⟨c', hc', ?_⟩
  rcases (Change.of_turn ht).of_opened hp with hkept | hreset | ⟨hu, hp', hen, hr⟩
  · exact Or.inl ⟨hkept.1, hkept.2.trans hat⟩
  · exact Or.inr (Or.inl hreset)
  · refine Or.inr (Or.inr ⟨hu, hp', hen, ?_⟩)
    rw [State.remainingMs, hat] at hr
    exact hr

end Session

end Breaker

end ResilientCalls
