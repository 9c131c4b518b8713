import ResilientCalls.Proofs.Breaker.Allowance
import ResilientCalls.Proofs.Retry.Schedule
import ResilientCalls.Proofs.Service.Moments
import ResilientCalls.Proofs.Tally

namespace ResilientCalls

open Effect World Breaker

variable {τ σ α : Type}

namespace Breaker

variable [Clock τ] {id : Id} {w : World τ σ} {c : Cell τ} {k : Option Sink}

theorem call_refused (hc : w.registry.cell? id = some c) (hen : c.config.isEnabled = true)
    {ms : Option Nat} (hv : c.state.verdict c.config w.now = .ok (.refused ms)) (hw : w.Delivers)
    (body : Run τ σ α) :
    ∃ w', (guard id).call body w = (.error (.failed
        (.circuitOpen c.config.key c.state.phase.name (ms.map Int.ofNat))), w') ∧ Observed w w' ∧
      ∀ x ∉ Seen.incidental, Gains k x (if x = .metric blockedMetric then 1 else 0) w w' := by
  obtain ⟨w', hcheck, hsaid⟩ := check_refused hc hv hw
  refine ⟨w', Guard.hold_of_error (enter_of_check hc hen hcheck) _, ?_, fun x hx => ?_⟩
  · have ho := moves_check id w
    rw [hcheck] at ho
    exact ho
  · have hg := gains_announce_blocked hx c c.state.phase ms (k := k) w
    rw [hsaid] at hg
    exact hg

/-- A call that is granted runs its body, and only breakers and observations move after it. If the
body fails, the breaker is left as after a failing call. -/
theorem call_of_granted (hc : w.registry.cell? id = some c) (hen : c.config.isEnabled = true)
    (hv : c.state.verdict c.config w.now = .ok .granted) (hw : w.Delivers) (body : Run τ σ α) :
    ∃ w₁ c₁, Steady w w₁ ∧ w₁.registry.cell? id = some c₁ ∧
      (∀ x ∉ Seen.incidental, Gains k x 0 w w₁) ∧
      Steady (body w₁).2 ((guard id).call body w).2 ∧
      ∀ f w₂, body w₁ = (.error (.failed f), w₂) → w₂.Delivers →
        w₂.registry.cell? id = some c₁ →
        ∃ w', (guard id).call body w = (.error (.failed f), w') ∧
          w'.registry.cell? id =
            some { c with state := c.state.afterFailing c.config w.now w₂.now } ∧
          ∀ x ∉ Seen.incidental, Gains k x 0 w₂ w' := by
  obtain ⟨w₁, henter, ho⟩ := enter_of_granted hc hen hv hw
  generalize ht : (c.state.probe w.now).1.take.2 = t at henter
  have hhold : (guard id).call body w = Effect.thereafter ((guard id).reporting body)
      ((guard id).release t) w₁ := Guard.hold_of_ok henter _
  have hc₁ : w₁.registry.cell? id = some { c with state := (c.state.probe w.now).1.take.1 } := by
    rw [ho.registry]
    exact Registry.cell?_setState_self hc _
  refine ⟨w₁, _, trans_of Steady (steady_setState w id _) ho.steady, hc₁, fun x hx => ?_, ?_, ?_⟩
  · have hg := gains_enter_of_granted (k := k) hx hc hv
    rw [henter] at hg
    exact hg
  · have hreport : Steady (body w₁).2 ((guard id).reporting body w₁).2 :=
      after_reporting (moves_advance id State.recordSuccess)
        (moves_advance id State.recordFailure) w₁
    rw [hhold]
    refine trans_of Steady hreport (Moves.after_ending (fun r => ?_) w₁)
    exact Moves.bind (moves_guard_release id t) fun _ => Moves.conclude r
  intro f w₂ hbody hw₂ hc₂
  -- the failure is recorded where the body ends, and the ticket is given back after it
  obtain ⟨-, u, hu⟩ := returns_advance id State.recordFailure w₂ hw₂
  have hfail : (guard id).fail w₂ = (.ok (), (recordFailure id w₂).2) := Prod.ext hu rfl
  have hc₃ := Breaker.cell?_advance hc₂ State.recordFailure
  have hreport : (guard id).reporting body w₁ =
      (.error (.failed f), (recordFailure id w₂).2) := Guard.reporting_of_failed hbody hfail
  refine ⟨(release id t (recordFailure id w₂).2).2, ?_, ?_, fun x hx => ?_⟩
  · rw [hhold, thereafter_apply, hreport, guard_release]
  · have hrelease := release_eq hc₃ t
    show (release id t (advance id State.recordFailure w₂).2).2.registry.cell? id = _
    rw [hrelease, ← ht]
    exact Registry.cell?_setState_self hc₃ _
  · exact trans_of (Gains k x 0) (gains_recordFailure hx w₂) (gains_release t _)

end Breaker

namespace Service

variable [Clock τ]

/-- What is counted of a call: its retries, by the metric and by the event of the record that
tells of one, and refused admissions. -/
def watched (s : Service) (event : String) : List Seen :=
  [.metric s.retryMetric, .record event, .metric blockedMetric]

/-- A world in which metrics are delivered, no fault is injected into a service, and its breaker is
as given. -/
structure Stands (s : Service) (w : World τ σ) (c : Cell τ) : Prop where
  delivers : w.Delivers
  quiet : ∀ stage, s.isFaulty w stage = false
  cell : w.registry.cell? s.breaker = some c

/-- What spares a service: its breaker is left as it is, and nothing is counted. -/
structure Spares (s : Service) (event : String) (w w' : World τ σ) : Prop where
  stands : ∀ c, s.Stands w c → s.Stands w' c
  uncounted : ∀ x ∈ s.watched event, Gains s.sink x 0 w w'

/-- The moments of a call that is made in vain, from a state of the breaker on. -/
structure InVain (s : Service) (event : String) (shouldRetry : Failure → Except Failure Bool)
    (start : State τ) (ms : List (Journal.Moment τ σ)) : Prop where
  /-- Every call of the provider fails, and in a way that is to be retried. -/
  failed : ∀ w w' e, .called w w' e ∈ ms →
    s.Spares event w w' ∧ ∃ f, e = .failed f ∧ shouldRetry f = .ok true
  /-- How long to wait after it can be told. -/
  measured : ∀ made, 0 < made → made < s.policy.limit → made ≤ (Journal.replies ms).length →
    ∃ delay, s.policy.delayMs made = .ok delay
  waited : ∀ w w' e, .waited w w' e ∈ ms → s.Spares event w w' ∧ e = .returned
  /-- A window that has opened since the start is not over when the breaker is asked. -/
  pending : ∀ w c, .asked w ∈ ms → w.registry.cell? s.breaker = some c →
    c.state.phase = .opened → c.state.transitions ≠ start.transitions →
    ∃ left, c.state.remainingMs c.config w.now = .ok (left + 1)

/-- What tells of a retry, by one record and one count. -/
structure Telling (s : Service) (event : String) (onRetry : Failure → Nat → Run τ σ Unit) :
    Prop where
  observed : ∀ f made, Moves Observed (onRetry f made)
  returns : ∀ f made, Returns Delivers (onRetry f made)
  gains : ∀ f made, ∀ x ∈ s.watched event,
    Moves (Gains s.sink x (if x = .metric blockedMetric then 0 else 1)) (onRetry f made)

/-- What became of a world and a breaker in `attempts` attempts, when so many failing calls were
allowed: `fs` are the failures of the calls, and `f` is the one that the attempts ended in. -/
structure Spent (s : Service) (event : String) (key : Json) (attempts allowed : Nat)
    (w w' : World τ σ) (b b' : State τ) (fs : List Failure) (f : Failure) : Prop where
  calls : fs.length = min attempts allowed
  last : attempts ≤ allowed → fs.getLast? = some f
  refusal : allowed < attempts → f.status = .int 503 ∧ ∃ phase ms, f = .circuitOpen key phase ms
  gains : ∀ x ∈ s.watched event, Gains s.sink x
    (if x = .metric blockedMetric then (if allowed < attempts then 1 else 0)
      else min (attempts - 1) allowed) w w'
  untouched : allowed = 0 → b' = b
  tripped : 0 < allowed → allowed ≤ attempts → b'.phase = .opened ∧ b'.failures = 0
  counted : attempts < allowed → b'.phase = .closed ∧
    ∃ m : Nat, b.failures = .whole m ∧ b'.failures = .whole (m + attempts)

namespace Spent

variable {s : Service} {event : String} {key : Json} {m n : Nat} {w w₁ w₂ w' : World τ σ}
  {b b₁ b' : State τ} {fs fs₁ : List Failure} {f f₁ : Failure}

omit [Clock τ] in
/-- What is only observed afterwards, and not counted, changes nothing. -/
theorem observed (h : Spent s event key m n w w₁ b b' fs f)
    (hg : ∀ x ∈ s.watched event, Gains s.sink x 0 w₁ w') :
    Spent s event key m n w w' b b' fs f where
  calls := h.calls
  last := h.last
  refusal := h.refusal
  gains x hx := (h.gains x hx).trans (hg x hx)
  untouched := h.untouched
  tripped := h.tripped
  counted := h.counted

omit [Clock τ] in
/-- The engine's own record of how the attempts ended is not among what is counted. -/
theorem logged (h : Spent s event key m n w w₁ b b₁ fs f)
    (hx : ∀ x ∈ s.watched event, x ∉ Seen.incidental) {r : LogRecord}
    (hr : .record r.event ∈ Seen.incidental) (hm : r.event ≠ "metric") :
    Spent s event key m n w (w₁.addLog r) b b₁ fs f :=
  h.observed fun x hxs => gains_logged_of_hidden (LogRecord.shows_eq_false (hx x hxs) hr hm) w₁

omit [Clock τ] in
theorem refused {phase : String} {ms : Option Int} (hg : ∀ x ∈ s.watched event,
      Gains s.sink x (if x = .metric blockedMetric then 1 else 0) w w') :
    Spent s event key 1 0 w w' b b [] (.circuitOpen key phase ms) where
  calls := rfl
  last hle := by omega
  refusal _ := ⟨rfl, phase, ms, rfl⟩
  gains x hx := by
    have hx' := hg x hx
    simpa using hx'
  untouched _ := rfl
  tripped hpos := by omega
  counted hlt := by omega

/-- A call that is granted and fails is spent, and leaves the breaker as after a failing call. -/
theorem failed {k : Config} {threshold : Int} {now : τ}
    (hn : Allowance k threshold b now (n + 1)) (hen : k.isEnabled = true)
    (ht : k.threshold.value = .inl threshold) (later : τ)
    (hg : ∀ x ∈ s.watched event, Gains s.sink x 0 w w') (f : Failure) :
    Spent s event k.key 1 (n + 1) w w' b (b.afterFailing k now later) [f] f where
  calls := by simp
  last _ := rfl
  refusal hlt := by omega
  gains x hx := by
    have hx' := hg x hx
    simpa using hx'
  untouched h := by omega
  tripped _ hle := by
    obtain rfl : n = 0 := by omega
    have hleft : Leftover k threshold b.transitions (b.afterFailing k now later) 0 :=
      hn.afterFailing hen ht le_rfl
    generalize h0 : 0 = l at hleft
    cases hleft with
    | tripped hp hfail _ => exact ⟨hp, hfail⟩
    | counting _ _ _ _ => omega
  counted hlt := by
    obtain ⟨l, rfl⟩ : ∃ l, n = l + 1 := ⟨n - 1, by omega⟩
    obtain ⟨i, hi, hafter, hp⟩ := hn.counted hen ht later
    rw [hafter]
    exact ⟨hp, i, hi, rfl⟩

omit [Clock τ] in
theorem of_refused (h : Spent s event key 1 0 w w' b b' fs f) (left : Nat) :
    Spent s event key (left + 1) 0 w w' b b' fs f where
  calls := by
    have hlen := h.calls
    omega
  last hle := by omega
  refusal _ := h.refusal (by omega)
  gains x hx := by
    have hg := h.gains x hx
    simpa using hg
  untouched := h.untouched
  tripped hpos := by omega
  counted hlt := by omega

omit [Clock τ] in
theorem again (h : Spent s event key 1 (n + 1) w w₁ b b₁ fs₁ f₁)
    (hg : ∀ x ∈ s.watched event, Gains s.sink x (if x = .metric blockedMetric then 0 else 1) w₁ w₂)
    (h' : Spent s event key (m + 1) n w₂ w' b₁ b' fs f) :
    Spent s event key (m + 2) (n + 1) w w' b b' (fs₁ ++ fs) f where
  calls := by
    have hlen₁ := h.calls
    have hlen := h'.calls
    rw [List.length_append]
    omega
  last hle := by
    rw [List.getLast?_append, h'.last (by omega)]
    rfl
  refusal hlt := h'.refusal (by omega)
  gains x hx := by
    have hsum := ((h.gains x hx).trans (hg x hx)).trans (h'.gains x hx)
    -- the first attempt was allowed, so a refusal can only be one of a later attempt
    by_cases hb : x = .metric blockedMetric
    · simp only [hb, if_true] at hsum ⊢
      have hiff : (if n + 1 < m + 2 then 1 else 0) =
          (if n + 1 < 1 then 1 else 0) + 0 + (if n < m + 1 then 1 else 0) := by
        simp
      rw [hiff]
      exact hsum
    · simp only [hb, if_false] at hsum ⊢
      have hmin : min (m + 2 - 1) (n + 1) = min (1 - 1) (n + 1) + 1 + min (m + 1 - 1) n := by omega
      rw [hmin]
      exact hsum
  untouched h₀ := by omega
  tripped _ hle := by
    by_cases hn : n = 0
    · rw [h'.untouched hn]
      exact h.tripped (by omega) (by omega)
    · exact h'.tripped (by omega) (by omega)
  counted hlt := by
    obtain ⟨-, i, hi, hi₁⟩ := h.counted (by omega)
    obtain ⟨hp, j, hj, hj'⟩ := h'.counted (by omega)
    have hij : ((i + 1 : Nat) : Int) = j := by
      simpa using hi₁.symm.trans hj
    refine ⟨hp, i, hi, ?_⟩
    rw [hj']
    congr 1
    push_cast at hij ⊢
    omega

end Spent

section

variable {s : Service} {event : String} {w w' : World τ σ} {c c' : Cell τ}

omit [Clock τ] in
theorem Stands.steady (h : s.Stands w c) (hw : Steady w w')
    (hc : w'.registry.cell? s.breaker = some c') : s.Stands w' c' where
  delivers := hw.delivers h.delivers
  quiet stage := (isFaulty_of_sameFlags hw.sameFlags s stage).trans (h.quiet stage)
  cell := hc

omit [Clock τ] in
theorem Stands.observed (h : s.Stands w c) (hw : Observed w w') : s.Stands w' c := by
  refine h.steady hw.steady ?_
  rw [hw.registry]
  exact h.cell

omit [Clock τ] in
theorem Stands.withJournal (h : s.Stands w c) {ε : Type} (js : List ε) :
    s.Stands (Journal.withJournal js w) c := ⟨h.delivers, h.quiet, h.cell⟩

omit [Clock τ] in
theorem Stands.without {ε : Type} {w : Journal.Noted ε τ σ} (h : s.Stands w c) :
    s.Stands (Journal.without w) c := ⟨h.delivers, h.quiet, h.cell⟩

end

section

open Journal

variable {s : Service} {event : String} {shouldRetry : Failure → Except Failure Bool}
  {onRetry : Failure → Nat → Run τ (List (Moment τ σ) × σ) Unit} {wait : Binary64 → Run τ σ Unit}
  {body : Run τ (List (Moment τ σ) × σ) α} {start : State τ} {k : Config} {threshold : Int}
  {all : List (Moment τ σ)} {w : Noted (Moment τ σ) τ σ} {c : Cell τ} {n : Nat}

/-- A body under a checkpoint that is not enabled, made in vain. -/
theorem body_failed (hv : s.InVain event shouldRetry start all) (hb : Calling body)
    (hw : s.Stands w c) (hall : (body w).2.outside.1 <+: all) :
    ∃ f w', body w = (.error (.failed f), w') ∧ s.Stands w' c ∧ shouldRetry f = .ok true ∧
      replies w'.outside.1 = replies w.outside.1 ++ [.failed f] ∧
      ∀ x ∈ s.watched event, Gains s.sink x 0 w w' := by
  obtain ⟨after, e, hafter, hfail⟩ := hb w
  rw [hafter] at hall
  have hmem : Moment.called (without w) after e ∈ all := hall.subset List.mem_concat_self
  obtain ⟨hspares, f, rfl, hagain⟩ := hv.failed _ _ _ hmem
  refine ⟨f, _, Prod.ext (hfail f rfl) hafter, ?_, hagain, ?_, fun x hx => ?_⟩
  · exact (hspares.stands c hw.without).withJournal _
  · show replies (w.outside.1 ++ _) = _
    rw [replies_append]
    rfl
  · exact gains_without.1 (hspares.uncounted x hx)

/-- An attempt that is refused, or made in vain. What is allowed is asked for only if the breaker
has been asked. -/
theorem attempt_spent (hx : ∀ x ∈ s.watched event, x ∉ Seen.incidental)
    (hv : s.InVain event shouldRetry start all) (hb : Calling body) (hen : k.isEnabled = true)
    (ht : k.threshold.value = .inl threshold) (hw : s.Stands w c) (hk : c.config = k)
    (hstart : start.transitions ≤ c.state.transitions)
    (hall : (s.attempt (Moments.guard s.guard) body w).2.outside.1 <+: all)
    (hn : .asked (without w) ∈ all → Allowance k threshold c.state w.now n) :
    ∃ fs f w' c', s.attempt (Moments.guard s.guard) body w = (.error (.failed f), w') ∧
      s.Stands w' c' ∧ c'.config = k ∧
      replies w'.outside.1 = replies w.outside.1 ++ fs.map .failed ∧
      (0 < n → shouldRetry f = .ok true) ∧
      (∀ m, n = m + 1 → Leftover k threshold start.transitions c'.state m) ∧
      Spent s event k.key 1 n w w' c.state c'.state fs f := by
  subst hk
  rw [Moments.attempt_apply] at hall ⊢
  have hasks : Extends (Moments.asking w) (s.attempt s.guard body (Moments.asking w)).2 :=
    s.moves_attempt_guard (fun _ _ => extends_of_steady) hb.moves _
  have hn := hn ((hasks.trans hall).subset (by simp [Moments.asking]))
  have hask : replies (Moments.asking w).outside.1 = replies w.outside.1 := by
    simp [Moments.asking, replies, Moment.reply?]
  have hw₀ : s.Stands (Moments.asking w) c := ⟨hw.delivers, hw.quiet, hw.cell⟩
  cases n with
  | zero =>
    -- nothing is allowed, so the body is not run
    obtain ⟨ms, hrefused⟩ := hn.refused
    obtain ⟨w', hcall, ho, hg⟩ :=
      call_refused (k := s.sink) hw₀.cell hen hrefused hw₀.delivers _
    refine ⟨[], _, w', c, hcall, hw₀.observed ho, rfl, ?_, ?_, ?_,
      .refused fun x hxs => hg x (hx x hxs)⟩
    · rw [ho.outside, hask]
      exact (List.append_nil _).symm
    · intro h
      omega
    · intro m h
      omega
  | succ n =>
    -- the body fails where it was admitted, and only then is the failure recorded
    obtain ⟨w₁, c₁, hw₁, hc₁, hg₁, hafter, hcall⟩ :=
      call_of_granted (k := s.sink) hw₀.cell hen (hn.granted hen) hw₀.delivers (do
        s.checkpoint "retry-attempt"
        body)
    have hs₁ : s.Stands w₁ c₁ := hw₀.steady hw₁ hc₁
    rw [bind_of_ok (checkpoint_of_quiet (hs₁.quiet _))] at hafter hcall
    obtain ⟨f, w₂, hbody, hs₂, hagain, hreply, hg₂⟩ :=
      body_failed hv hb hs₁ ((extends_of_steady hafter).trans hall)
    obtain ⟨w', hres, hc', hg'⟩ := hcall f w₂ hbody hs₂.delivers hs₂.cell
    have hsteady : Steady w₂ w' := by
      rw [hbody, hres] at hafter
      exact hafter
    refine ⟨[f], f, w', _, hres, hs₂.steady hsteady hc', rfl, ?_, fun _ => hagain, ?_, ?_⟩
    · rw [hsteady.outside, hreply, hw₁.outside, hask]
      rfl
    · intro m hm
      obtain rfl : n = m := by omega
      exact hn.afterFailing hen ht hstart
    · refine .failed hn hen ht w₂.now (fun x hxs => ?_) f
      exact ((hg₁ x (hx x hxs)).trans (hg₂ x hxs)).trans (hg' x (hx x hxs))

theorem pause_ok (hx : ∀ x ∈ s.watched event, x ∉ Seen.incidental)
    (hv : s.InVain event shouldRetry start all) (ht : s.Telling event onRetry) {made : Nat}
    (hmade : 0 < made) (hlimit : made < s.policy.limit) (f : Failure) (hw : s.Stands w c)
    (hreplies : made ≤ (replies w.outside.1).length) {p : Retry.Hooks (Noted (Moment τ σ) τ σ)}
    (hp : p = ⟨fun f => Effect.ofExcept (shouldRetry f), onRetry, Moments.waiting wait, Run.logged⟩)
    (hmove : p.Move Extends) (hall : (Retry.pause s.policy p f made w).2.outside.1 <+: all) :
    ∃ w', Retry.pause s.policy p f made w = (.ok (), w') ∧ s.Stands w' c ∧
      replies w'.outside.1 = replies w.outside.1 ∧
      ∀ x ∈ s.watched event, Gains s.sink x (if x = .metric blockedMetric then 0 else 1) w w' := by
  have hgoes : Extends w (Retry.pause s.policy p f made w).2 :=
    Retry.moves_pause s.policy hmove f made w
  obtain ⟨delay, hdelay⟩ := hv.measured made hmade hlimit
    (hreplies.trans (replies_length_le (hgoes.trans hall)))
  subst hp
  have ho := ht.observed f made w
  obtain ⟨-, u, hu⟩ := ht.returns f made w hw.delivers
  have hg := fun x hx => ht.gains f made x hx w
  cases htold : onRetry f made w with
  | mk r w₁ =>
    rw [htold] at ho hu hg
    obtain rfl : r = .ok u := hu
    have hlog : (Run.logged (Retry.retrying f made delay) :
        Run τ (List (Moment τ σ) × σ) Unit) w₁ =
          (.ok (), w₁.addLog (Retry.retrying f made delay)) := rfl
    have ho₂ : Observed w (w₁.addLog (Retry.retrying f made delay)) :=
      trans_of Observed ho (moves_logged (Retry.retrying f made delay) w₁)
    have hg₂ : ∀ x ∈ s.watched event, Gains s.sink x (if x = .metric blockedMetric then 0 else 1)
        w (w₁.addLog (Retry.retrying f made delay)) := by
      intro x hxs
      refine (hg x hxs).trans (gains_logged_of_hidden ?_ w₁)
      exact LogRecord.shows_eq_false (hx x hxs) (by simp [Retry.retrying, Retry.describe,
        Seen.incidental]) (by simp [Retry.retrying, Retry.describe])
    generalize w₁.addLog (Retry.retrying f made delay) = w₂ at hlog ho₂ hg₂
    have hw₂ : s.Stands w₂ c := hw.observed ho₂
    -- nothing else is to be done but to wait, if there is anything to wait for
    unfold Retry.pause at hall ⊢
    rw [hdelay, ofExcept_ok, pure_bind, bind_of_ok htold, bind_of_ok hlog] at hall ⊢
    split
    · next hpos =>
      rw [if_pos hpos] at hall
      dsimp only [Moments.waiting] at hall ⊢
      rw [around_apply] at hall ⊢
      obtain ⟨hspares, hret⟩ := hv.waited _ _ _ (hall.subset List.mem_concat_self)
      obtain ⟨u, hu⟩ := eq_of_returned hret
      refine ⟨_, Prod.ext hu rfl, (hspares.stands c hw₂.without).withJournal _, ?_, ?_⟩
      · show replies (w₂.outside.1 ++ _) = _
        rw [replies_append, ho₂.outside]
        exact List.append_nil _
      · intro x hxs
        exact (hg₂ x hxs).trans (n := 0) (gains_without.1 (hspares.uncounted x hxs))
    · exact ⟨w₂, rfl, hw₂, by rw [ho₂.outside], hg₂⟩

/-- The attempts that are made in vain, from any of them on. -/
theorem attemptFrom_spent (hx : ∀ x ∈ s.watched event, x ∉ Seen.incidental)
    (hv : s.InVain event shouldRetry start all) (hb : Calling body)
    (htell : s.Telling event onRetry)
    (hdecline : ∀ key phase ms, shouldRetry (.circuitOpen key phase ms) = .ok false)
    (hen : k.isEnabled = true) (ht : k.threshold.value = .inl threshold)
    {p : Retry.Hooks (Noted (Moment τ σ) τ σ)}
    (hp : p = ⟨fun f => Effect.ofExcept (shouldRetry f), onRetry, Moments.waiting wait, Run.logged⟩)
    {made left : Nat} (hlimit : made + left ≤ s.policy.limit) (hw : s.Stands w c)
    (hk : c.config = k) (hstart : start.transitions ≤ c.state.transitions)
    (hmade : made = (replies w.outside.1).length + 1)
    (hall : (Retry.attemptFrom s.policy p (s.attempt (Moments.guard s.guard) body) made left
      w).2.outside.1 <+: all)
    (hn : .asked (without w) ∈ all → Allowance k threshold c.state w.now n) :
    ∃ fs f w' c',
      Retry.attemptFrom s.policy p (s.attempt (Moments.guard s.guard) body) made left w =
        (.error (.failed f), w') ∧ s.Stands w' c' ∧ c'.config = k ∧
      replies w'.outside.1 = replies w.outside.1 ++ fs.map .failed ∧
      Spent s event k.key (left + 1) n w w' c.state c'.state fs f := by
  have hmove : p.Move Extends := by
    subst hp
    refine ⟨fun f => Moves.ofExcept _, fun f made => ?_, fun d => extends_around _ _, fun r _ => ?_⟩
    · exact (htell.observed f made).mono fun _ _ h => extends_of_steady h.steady
    · exact (moves_logged r).mono fun _ _ h => extends_of_steady h.steady
  -- on the attempts left; every attempt that is made takes one from the allowance, too
  induction left generalizing made w c n with
  | zero =>
    obtain ⟨fs, f, w₁, c₁, hcall, hw₁, hk₁, hr₁, -, -, hs⟩ := attempt_spent hx hv hb hen ht hw hk
      hstart ((Retry.moves_after_attempt _ hmove (extends_attempt s hb.moves) made 0 w).trans hall)
      hn
    subst hp
    have ho : Observed w₁ (w₁.addLog (Retry.exhausted f made)) := moves_logged _ w₁
    refine ⟨fs, f, w₁.addLog (Retry.exhausted f made), c₁, ?_, hw₁.observed ho, hk₁, hr₁,
      hs.logged hx (by simp [Retry.exhausted, Retry.describe, Seen.incidental])
        (by simp [Retry.exhausted, Retry.describe])⟩
    rw [Retry.attemptFrom, ending_bind_apply, hcall]
    rfl
  | succ left ih =>
    obtain ⟨fs₁, f₁, w₁, c₁, hcall, hw₁, hk₁, hr₁, hagain, hleft, hs⟩ :=
      attempt_spent hx hv hb hen ht hw hk hstart ((Retry.moves_after_attempt _ hmove
        (extends_attempt s hb.moves) made (left + 1) w).trans hall) hn
    cases n with
    | zero =>
      -- the breaker refuses, and a refusal is not tried again
      obtain ⟨-, phase, ms, hf⟩ := hs.refusal (by omega)
      have hno : shouldRetry f₁ = .ok false := by
        rw [hf]
        exact hdecline _ _ _
      subst hp
      have ho : Observed w₁ (w₁.addLog (Retry.declined f₁ made)) := moves_logged _ w₁
      refine ⟨fs₁, f₁, w₁.addLog (Retry.declined f₁ made), c₁, ?_, hw₁.observed ho, hk₁, hr₁,
        (hs.of_refused (left + 1)).logged hx
          (by simp [Retry.declined, Retry.describe, Seen.incidental])
          (by simp [Retry.declined, Retry.describe])⟩
      rw [Retry.attemptFrom, ending_bind_apply, hcall]
      dsimp only
      rw [hno, ofExcept_ok, pure_bind]
      rfl
    | succ n =>
      have hlen : made = (replies w₁.outside.1).length := by
        rw [hr₁, List.length_append, List.length_map, hs.calls, hmade]
        omega
      have hgoes : Retry.attemptFrom s.policy p (s.attempt (Moments.guard s.guard) body) made
          (left + 1) w = (Retry.pause s.policy p f₁ made >>= fun _ =>
            Retry.attemptFrom s.policy p (s.attempt (Moments.guard s.guard) body) (made + 1)
              left) w₁ := by
        rw [Retry.attemptFrom, ending_bind_apply, hcall]
        subst hp
        dsimp only
        rw [hagain (by omega), ofExcept_ok, pure_bind, if_pos rfl]
      rw [hgoes] at hall ⊢
      obtain ⟨w₂, hpause, hw₂, hr₂, hg₂⟩ := pause_ok hx hv htell (by omega) (by omega) f₁ hw₁
        hlen.le hp hmove ((Moves.after_bind (fun _ => Retry.moves_attemptFrom _ hmove
          (extends_attempt s hb.moves) _ _) w₁).trans hall)
      rw [bind_of_ok hpause] at hall ⊢
      have hleft := hleft n rfl
      obtain ⟨fs, f, w', c', hres, hw', hk', hr', hs'⟩ := ih
        (by omega : made + 1 + left ≤ s.policy.limit) hw₂ hk₁
        hleft.start_le (by rw [hr₂, ← hlen]) hall fun hasked =>
          hleft.allowance hen (by rw [← hk₁]; exact hv.pending _ c₁ hasked hw₂.cell)
      refine ⟨fs₁ ++ fs, f, w', c', hres, hw', hk', ?_, hs.again hg₂ hs'⟩
      rw [hr', hr₂, hr₁, List.map_append, List.append_assoc]

end

end Service

end ResilientCalls
