import ResilientCalls.Proofs.Breaker.Changes

namespace ResilientCalls.Breaker

variable {τ : Type}

namespace State

/-- What a failing call, admitted at one instant and failed at another, makes of the state. -/
def afterFailing (s : State τ) (k : Config) (now later : τ) : State τ :=
  (((s.probe now).1.take.1.recordFailure k later).1.release (s.probe now).1.take.2).1

variable {s : State τ} {k : Config} {now later : τ}

theorem release_slotless (s : State τ) (used : Bool) : (s.release ⟨none, used⟩).1 = s := rfl

theorem afterFailing_of_closed (hp : s.phase = .closed) :
    s.afterFailing k now later = (s.recordFailure k later).1 := by
  have htake : s.take = (s, ⟨none, false⟩) := by simp [take, hp]
  rw [afterFailing, probe_of_ne now (by simp [hp]), htake, release_slotless]

/-- A probe that fails opens the breaker, and its slot is of a window that is over. -/
theorem afterFailing_of_halfOpen (hen : k.isEnabled = true) (hp : s.phase = .halfOpen) :
    s.afterFailing k now later = ⟨.opened, 0, some later, 0, s.transitions + 1⟩ := by
  have htake : s.take = ({ s with inFlight := s.inFlight.next }, ⟨some s.transitions, false⟩) := by
    simp [take, hp]
  have hfail : (recordFailure { s with inFlight := s.inFlight.next } k later).1 =
      ⟨.opened, 0, some later, 0, s.transitions + 1⟩ :=
    recordFailure_of_halfOpen (s := { s with inFlight := s.inFlight.next }) hen hp later
  rw [afterFailing, probe_of_ne now (by simp [hp]), htake]
  dsimp only
  rw [hfail]
  exact release_of_not_isOut (by simp [Ticket.isOut])

theorem afterFailing_of_opened (hen : k.isEnabled = true) (hp : s.phase = .opened) :
    s.afterFailing k now later = ⟨.opened, 0, some later, 0, s.transitions + 2⟩ := by
  -- a probe of what a probe has made half open does nothing more
  have hagain : (probe (⟨.halfOpen, 0, none, 0, s.transitions + 1⟩ : State τ) now).1 =
      ⟨.halfOpen, 0, none, 0, s.transitions + 1⟩ := rfl
  have h : afterFailing ⟨.halfOpen, 0, none, 0, s.transitions + 1⟩ k now later =
      ⟨.opened, 0, some later, 0, s.transitions + 2⟩ := afterFailing_of_halfOpen hen rfl
  rw [afterFailing, hagain] at h
  rw [afterFailing, probe_of_opened now hp]
  exact h

theorem recordFailure_of_counting (hen : k.isEnabled = true)
    {threshold : Int} (ht : k.threshold.value = .inl threshold) (hp : s.phase = .closed)
    {failures : Nat} (hf : s.failures = .whole failures) :
    (s.recordFailure k later).1 =
      if threshold ≤ failures + 1 then ⟨.opened, 0, some later, 0, s.transitions + 1⟩
      else { s with failures := .whole (failures + 1) } := by
  have hreach : (s.failures.next).reaches k.threshold = decide (threshold ≤ failures + 1) := by
    rw [hf, Number.next_whole]
    exact Number.reaches_of_values rfl ht
  simp only [recordFailure, hen, hp, hreach, Bool.not_true, Bool.false_eq_true, if_false,
    decide_eq_true_eq]
  split
  · rw [move_of_ne later (by simp)]
    rfl
  · rw [hf, Number.next_whole]

end State

/-- A count of failures is a whole number that is not below zero. -/
def State.Counts (s : State τ) : Prop := ∃ n : Nat, s.failures = .whole n

variable [Clock τ]

theorem State.Counts.change {now : τ} {k : Config} {s s' : State τ} {u : Use τ} (h : s.Counts)
    (hc : Change now k s u s') : s'.Counts := by
  cases hc with
  | probed _ _ _ _ | cleared _ _ | recovered _ _ | tripped _ _ _ | relapsed _ _ | resetClosed _
  | resetOther _ => exact ⟨0, rfl⟩
  | counted _ _ _ =>
    obtain ⟨n, hn⟩ := h
    exact ⟨n + 1, by rw [hn]; rfl⟩
  | checked | passed _ | configured _ | stayed _ | joined _ _ _ | freedNothing _ | freed _
  | successIgnored _ | failureIgnored _ => exact h

/-- Failures are counted in every session that begins with a new breaker. -/
theorem Session.run_counts {σ : Type} (w : World τ σ) (config : Config) (us : List (Use τ)) :
    ∃ c, ((start w config).run us).cell? = some c ∧ c.state.Counts := by
  refine run_induction (P := fun c _ => c.state.Counts) (cell?_start w config) ⟨0, rfl⟩ ?_
  intro u _ now c ts c' ts' h ht
  exact h.change (.of_turn ht)

/-- So many failing calls are let through from a state at an instant. -/
inductive Allowance (k : Config) (threshold : Int) (s : State τ) (now : τ) : Nat → Prop where
  | refusing (ms : Option Nat) : s.verdict k now = .ok (.refused ms) → Allowance k threshold s now 0
  | probing : s.verdict k now = .ok .granted → s.phase ≠ .closed → Allowance k threshold s now 1
  | counting (failures : Nat) : s.phase = .closed → s.failures = .whole failures →
      Allowance k threshold s now (max 1 (threshold - failures)).toNat

/-- What is left after a call that has failed: none if the breaker has opened since it had changed
`start` times, and otherwise the failures to go. -/
inductive Leftover (k : Config) (threshold : Int) (start : Nat) (s : State τ) : Nat → Prop where
  | tripped : s.phase = .opened → s.failures = 0 → start < s.transitions →
      Leftover k threshold start s 0
  | counting (failures : Nat) : s.phase = .closed → s.failures = .whole failures →
      start ≤ s.transitions →
      Leftover k threshold start s (max 1 (threshold - failures)).toNat

namespace Leftover

variable {k : Config} {threshold : Int} {start : Nat} {s : State τ} {n : Nat}

omit [Clock τ] in
theorem start_le (h : Leftover k threshold start s n) : start ≤ s.transitions := by
  cases h with
  | tripped _ _ hlt => exact hlt.le
  | counting _ _ _ hle => exact hle

/-- What is left is allowed for as long as a window that has opened is not over. -/
theorem allowance (h : Leftover k threshold start s n) (hen : k.isEnabled = true) {now : τ}
    (hpending : s.phase = .opened → s.transitions ≠ start →
      ∃ ms, s.remainingMs k now = .ok (ms + 1)) : Allowance k threshold s now n := by
  cases h with
  | tripped hp _ hlt =>
    obtain ⟨ms, hms⟩ := hpending hp hlt.ne'
    refine .refusing (some (ms + 1)) ?_
    simp [State.verdict, hen, hp, hms]
  | counting failures hp hf _ => exact .counting failures hp hf

end Leftover

namespace Allowance

variable {k : Config} {threshold : Int} {s : State τ} {now later : τ} {n : Nat}

/-- Whatever a breaker whose failures are counted says, it lets so many failing calls through. -/
theorem exists_of_verdict (threshold : Int) (h : s.Counts) {v : Verdict}
    (hv : s.verdict k now = .ok v) : ∃ n, Allowance k threshold s now n := by
  cases v with
  | refused ms => exact ⟨0, .refusing ms hv⟩
  | granted =>
    by_cases hp : s.phase = .closed
    · obtain ⟨failures, hf⟩ := h
      exact ⟨_, .counting failures hp hf⟩
    · exact ⟨1, .probing hv hp⟩

theorem granted (h : Allowance k threshold s now (n + 1)) (hen : k.isEnabled = true) :
    s.verdict k now = .ok .granted := by
  generalize hm : n + 1 = m at h
  cases h with
  | refusing ms _ => cases hm
  | probing hv _ => exact hv
  | counting failures hp _ => simp [State.verdict, hen, hp]

theorem refused (h : Allowance k threshold s now 0) :
    ∃ ms, s.verdict k now = .ok (.refused ms) := by
  generalize hm : 0 = m at h
  cases h with
  | refusing ms hv => exact ⟨ms, hv⟩
  | probing _ _ => cases hm
  | counting failures _ _ => omega

theorem afterFailing (h : Allowance k threshold s now (n + 1)) (hen : k.isEnabled = true)
    (ht : k.threshold.value = .inl threshold) {start : Nat} (hstart : start ≤ s.transitions) :
    Leftover k threshold start (s.afterFailing k now later) n := by
  generalize hm : n + 1 = m at h
  cases h with
  | refusing _ _ => cases hm
  | probing hv hp =>
    obtain rfl : n = 0 := by omega
    cases hphase : s.phase with
    | closed => exact absurd hphase hp
    | opened =>
      rw [State.afterFailing_of_opened hen hphase]
      exact .tripped rfl rfl (by dsimp only; omega)
    | halfOpen =>
      rw [State.afterFailing_of_halfOpen hen hphase]
      exact .tripped rfl rfl (by dsimp only; omega)
  | counting failures hp hf =>
    rw [State.afterFailing_of_closed hp, State.recordFailure_of_counting hen ht hp hf]
    -- the threshold is reached exactly when the call was the last one allowed
    split
    · obtain rfl : n = 0 := by omega
      exact .tripped rfl rfl (by dsimp only; omega)
    · have hn : n = (max 1 (threshold - (failures + 1 : Nat))).toNat := by omega
      rw [hn]
      exact .counting (failures + 1) hp rfl hstart

/-- While more than one is left, a failing call is counted and nothing else. -/
theorem counted (h : Allowance k threshold s now (n + 2)) (hen : k.isEnabled = true)
    (ht : k.threshold.value = .inl threshold) (later : τ) :
    ∃ m : Nat, s.failures = .whole m ∧
      s.afterFailing k now later = { s with failures := .whole (m + 1) } ∧ s.phase = .closed := by
  generalize hm : n + 2 = m at h
  cases h with
  | refusing _ _ => cases hm
  | probing _ _ => omega
  | counting failures hp hf =>
    refine ⟨failures, hf, ?_, hp⟩
    rw [State.afterFailing_of_closed hp, State.recordFailure_of_counting hen ht hp hf]
    rw [if_neg (by omega)]

end Allowance

end ResilientCalls.Breaker
