import ResilientCalls.Proofs.Breaker.Slots

namespace ResilientCalls.Breaker

variable {τ : Type} [Clock τ]

inductive Change (now : τ) (k : Config) (s : State τ) : Use τ → State τ → Prop where
  | checked : Change now k s .check s
  | passed (later : τ) : Change now k s (.pass later) s
  | configured (other : Config) : Change now k s (.configure other) s
  /-- To be admitted without a slot, or not at all. -/
  | stayed : (k.isEnabled = true → s.phase = .opened → s.remainingMs k now ≠ .ok 0) →
      Change now k s .enter s
  /-- To be the first probe of a window. -/
  | probed (inFlight : Number) : k.isEnabled = true → s.phase = .opened →
      s.remainingMs k now = .ok 0 →
      Change now k s .enter ⟨.halfOpen, 0, none, inFlight, s.transitions + 1⟩
  | joined : k.isEnabled = true → s.phase = .halfOpen → s.inFlight.reaches k.probes = false →
      Change now k s .enter { s with inFlight := s.inFlight.next }
  | freedNothing (place : Nat) : Change now k s (.release place) s
  | freed (place : Nat) : Change now k s (.release place) { s with inFlight := s.inFlight.previous }
  | successIgnored : (k.isEnabled = true → s.phase = .opened) → Change now k s .succeed s
  | cleared : k.isEnabled = true → s.phase = .closed →
      Change now k s .succeed { s with failures := 0 }
  | recovered : k.isEnabled = true → s.phase = .halfOpen →
      Change now k s .succeed ⟨.closed, 0, none, 0, s.transitions + 1⟩
  | failureIgnored : (k.isEnabled = true → s.phase = .opened) → Change now k s .fail s
  | counted : k.isEnabled = true → s.phase = .closed →
      s.failures.next.reaches k.threshold = false →
      Change now k s .fail { s with failures := s.failures.next }
  | tripped : k.isEnabled = true → s.phase = .closed →
      s.failures.next.reaches k.threshold = true →
      Change now k s .fail ⟨.opened, 0, some now, 0, s.transitions + 1⟩
  | relapsed : k.isEnabled = true → s.phase = .halfOpen →
      Change now k s .fail ⟨.opened, 0, some now, 0, s.transitions + 1⟩
  | resetClosed : s.phase = .closed → Change now k s .reset { s with failures := 0 }
  | resetOther : s.phase ≠ .closed → Change now k s .reset ⟨.closed, 0, none, 0, s.transitions + 1⟩

namespace State

variable {k : Config} {s : State τ}

omit [Clock τ] in
theorem recordSuccess_of_halfOpen (hen : k.isEnabled = true) (hp : s.phase = .halfOpen) (now : τ) :
    (s.recordSuccess k now).1 = ⟨.closed, 0, none, 0, s.transitions + 1⟩ := by
  have hstep : s.recordSuccess k now = s.move now .closed := by simp [recordSuccess, hen, hp]
  rw [hstep, move_of_ne now (by simp [hp])]
  rfl

omit [Clock τ] in
theorem recordFailure_of_halfOpen (hen : k.isEnabled = true) (hp : s.phase = .halfOpen) (now : τ) :
    (s.recordFailure k now).1 = ⟨.opened, 0, some now, 0, s.transitions + 1⟩ := by
  have hstep : s.recordFailure k now = s.move now .opened := by simp [recordFailure, hen, hp]
  rw [hstep, move_of_ne now (by simp [hp])]
  rfl

end State

namespace Change

variable {now : τ} {k : Config} {s : State τ}

theorem of_probe (hen : k.isEnabled = true) (hv : s.verdict k now = .ok .granted) :
    Change now k s .enter (s.probe now).1 := by
  by_cases hp : s.phase = .opened
  · rw [State.probe_of_opened now hp]
    exact .probed 0 hen hp (State.remainingMs_of_granted hen hp hv)
  · rw [State.probe_of_ne now hp]
    exact .stayed fun _ ho => absurd ho hp

theorem of_probe_take (hen : k.isEnabled = true) (hv : s.verdict k now = .ok .granted) :
    Change now k s .enter (s.probe now).1.take.1 := by
  cases hp : s.phase with
  | closed =>
    have htake : (s.probe now).1.take.1 = s := by simp [State.probe, State.take, hp]
    rw [htake]
    exact .stayed fun _ ho => by simp [hp] at ho
  | opened =>
    rw [State.probe_of_opened now hp]
    exact .probed _ hen hp (State.remainingMs_of_granted hen hp hv)
  | halfOpen =>
    have htake : (s.probe now).1.take.1 = { s with inFlight := s.inFlight.next } := by
      simp [State.probe, State.take, hp]
    rw [htake]
    exact .joined hen hp (State.reaches_of_granted hen hp hv)

variable (now k s)

theorem of_release (place : Nat) (t : Ticket) :
    Change now k s (.release place) (s.release t).1 := by
  cases ho : t.isOut s.transitions with
  | true =>
    rw [State.release_of_isOut ho]
    exact .freed place
  | false =>
    rw [State.release_of_not_isOut ho]
    exact .freedNothing place

theorem of_recordSuccess : Change now k s .succeed (s.recordSuccess k now).1 := by
  by_cases hi : k.isEnabled = true → s.phase = .opened
  · have hstep : (s.recordSuccess k now).1 = s := by
      cases hen : k.isEnabled with
      | false => simp [State.recordSuccess, hen]
      | true => simp [State.recordSuccess, hen, hi hen]
    rw [hstep]
    exact .successIgnored hi
  · obtain ⟨hen, hne⟩ := Classical.not_imp.1 hi
    cases hp : s.phase with
    | closed =>
      have hstep : (s.recordSuccess k now).1 = { s with failures := 0 } := by
        simp [State.recordSuccess, hen, hp]
      rw [hstep]
      exact .cleared hen hp
    | opened => exact absurd hp hne
    | halfOpen =>
      rw [State.recordSuccess_of_halfOpen hen hp]
      exact .recovered hen hp

theorem of_recordFailure : Change now k s .fail (s.recordFailure k now).1 := by
  by_cases hi : k.isEnabled = true → s.phase = .opened
  · have hstep : (s.recordFailure k now).1 = s := by
      cases hen : k.isEnabled with
      | false => simp [State.recordFailure, hen]
      | true => simp [State.recordFailure, hen, hi hen]
    rw [hstep]
    exact .failureIgnored hi
  · obtain ⟨hen, hne⟩ := Classical.not_imp.1 hi
    cases hp : s.phase with
    | closed =>
      cases hr : s.failures.next.reaches k.threshold with
      | true =>
        have hstep : s.recordFailure k now =
            State.move { s with failures := s.failures.next } now .opened := by
          simp [State.recordFailure, hen, hp, hr]
        rw [hstep, State.move_of_ne now (by simp [hp])]
        exact .tripped hen hp hr
      | false =>
        have hstep : (s.recordFailure k now).1 = { s with failures := s.failures.next } := by
          simp [State.recordFailure, hen, hp, hr]
        rw [hstep]
        exact .counted hen hp hr
    | opened => exact absurd hp hne
    | halfOpen =>
      rw [State.recordFailure_of_halfOpen hen hp]
      exact .relapsed hen hp

theorem of_reset : Change now k s .reset (s.reset now).1 := by
  by_cases hp : s.phase = .closed
  · have hreset : (s.reset now).1 = { s with failures := 0 } := by
      simp [State.reset, State.move_of_eq now hp]
    rw [hreset]
    exact .resetClosed hp
  · have hreset : (s.reset now).1 = ⟨.closed, 0, none, 0, s.transitions + 1⟩ := by
      simp only [State.reset]
      rw [State.move_of_ne now hp]
      rfl
    rw [hreset]
    exact .resetOther hp

variable {now k s}

theorem of_turn {c c' : Cell τ} {ts ts' : List Ticket} {u : Use τ}
    (h : Session.Turn now c ts u c' ts') : Change now c.config c.state u c'.state := by
  cases h with
  | check => exact .checked
  | unguarded hen => exact .stayed fun h => by simp [hen] at h
  | refused hen hv =>
    refine .stayed fun _ hp hr => hv ?_
    simp [State.verdict, hen, hp, hr]
  | unannounced hen hv => exact of_probe hen hv
  | admitted hen hv => exact of_probe_take hen hv
  | unknown place _ => exact .freedNothing place
  | released place t _ => exact of_release now _ _ place t
  | succeed => exact of_recordSuccess now _ _
  | fail => exact of_recordFailure now _ _
  | reset => exact of_reset now _ _
  | rekeyed other _ => exact .configured other
  | configured other _ => exact .configured other
  | pass later => exact .passed later

end Change

end ResilientCalls.Breaker
