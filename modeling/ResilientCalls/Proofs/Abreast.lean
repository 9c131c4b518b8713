import Mathlib.Order.Monotone.Basic
import ResilientCalls.Proofs.Retry.Schedule
import ResilientCalls.Proofs.Service.Motion

namespace ResilientCalls

namespace Effect

variable {s t α β : Type} {R S T : s → t → Prop}

/-- From states that `R` relates, two computations end alike, and in states that `S` relates. -/
def Abreast (R : s → t → Prop) (x : Effect s α) (y : Effect t α) (S : s → t → Prop) : Prop :=
  ∀ w v, R w v → (x w).1 = (y v).1 ∧ S (x w).2 (y v).2

namespace Abreast

theorem mono {R' S' : s → t → Prop} {x : Effect s α} {y : Effect t α} (h : Abreast R x y S)
    (hR : R' ≤ R) (hS : S ≤ S') : Abreast R' x y S' := by
  intro w v hw
  obtain ⟨he, hs⟩ := h w v (hR w v hw)
  exact ⟨he, hS _ _ hs⟩

theorem pure (a : α) : Abreast R (Pure.pure a) (Pure.pure a) R := fun _ _ hw => ⟨rfl, hw⟩

theorem stop (e : Stop) : Abreast R (Effect.stop e : Effect s α) (Effect.stop e) R :=
  fun _ _ hw => ⟨rfl, hw⟩

theorem fail (f : Failure) : Abreast R (Effect.fail f : Effect s α) (Effect.fail f) R := stop _

theorem ofExcept (r : Except Failure α) :
    Abreast R (Effect.ofExcept r : Effect s α) (Effect.ofExcept r) R := by
  cases r with
  | ok a => exact pure a
  | error f => exact fail f

theorem ofForeign (r : Except Foreign α) :
    Abreast R (Effect.ofForeign r : Effect s α) (Effect.ofForeign r) R := by
  cases r with
  | ok a => exact pure a
  | error f => exact fail _

theorem modify {f : s → s} {g : t → t} (h : ∀ w v, R w v → S (f w) (g v)) :
    Abreast R (Effect.modify f) (Effect.modify g) S := fun w v hw => ⟨rfl, h w v hw⟩

theorem get_bind {f : s → Effect s α} {g : t → Effect t α}
    (h : ∀ w v, R w v → Abreast R (f w) (g v) S) :
    Abreast R (Effect.get >>= f) (Effect.get >>= g) S := by
  intro w v hw
  rw [get_bind_apply, get_bind_apply]
  exact h w v hw w v hw

/-- The first part may end early, so that what it leaves has to do for the whole. -/
theorem bind {x : Effect s α} {y : Effect t α} {f : α → Effect s β} {g : α → Effect t β}
    (hx : Abreast R x y S) (hf : ∀ a, Abreast S (f a) (g a) T) (hST : S ≤ T) :
    Abreast R (x >>= f) (y >>= g) T := by
  intro w v hw
  obtain ⟨he, hs⟩ := hx w v hw
  cases hxw : x w with
  | mk r w' =>
    cases hyv : y v with
    | mk q v' =>
      rw [hxw, hyv] at he hs
      obtain rfl : r = q := he
      cases r with
      | ok a =>
        rw [bind_of_ok hxw, bind_of_ok hyv]
        exact hf a w' v' hs
      | error e =>
        rw [bind_of_error hxw, bind_of_error hyv]
        exact ⟨rfl, hST _ _ hs⟩

theorem ending_bind {x : Effect s α} {y : Effect t α} {f : Except Stop α → Effect s β}
    {g : Except Stop α → Effect t β} (hx : Abreast R x y S) (hf : ∀ r, Abreast S (f r) (g r) T) :
    Abreast R (Effect.ending x >>= f) (Effect.ending y >>= g) T := by
  intro w v hw
  obtain ⟨he, hs⟩ := hx w v hw
  rw [ending_bind_apply, ending_bind_apply, ← he]
  exact hf _ _ _ hs

end Abreast

end Effect

open Effect

section Loop

variable {s t α : Type} {R : Nat → s → t → Prop}

/-- What a retried action depends on runs abreast. -/
structure Retry.Hooks.Abreast (R : s → t → Prop) (h : Retry.Hooks s) (k : Retry.Hooks t) :
    Prop where
  shouldRetry : ∀ f, Effect.Abreast R (h.shouldRetry f) (k.shouldRetry f) R
  onRetry : ∀ f made, Effect.Abreast R (h.onRetry f made) (k.onRetry f made) R
  wait : ∀ d, Effect.Abreast R (h.wait d) (k.wait d) R
  log : ∀ r, Effect.Abreast R (h.log r) (k.log r) R

theorem Retry.abreast_pause (p : Retry.Policy) {R : s → t → Prop} {h : Retry.Hooks s}
    {k : Retry.Hooks t} (hk : h.Abreast R k) (f : Failure) (made : Nat) :
    Effect.Abreast R (Retry.pause p h f made) (Retry.pause p k f made) R := by
  refine Abreast.bind (Abreast.ofExcept _) (fun delay => ?_) le_rfl
  refine Abreast.bind (hk.onRetry f made) (fun _ => ?_) le_rfl
  refine Abreast.bind (hk.log _) (fun _ => ?_) le_rfl
  split
  · exact hk.wait _
  · exact Abreast.pure _

/-- Each attempt takes the relation from one for the attempts left to one for those left after it.
-/
theorem Retry.abreast_attemptFrom (p : Retry.Policy) (hR : ∀ n, R (n + 1) ≤ R n)
    {h : Retry.Hooks s} {k : Retry.Hooks t} (hk : ∀ n, h.Abreast (R n) k) {x : Effect s α}
    {y : Effect t α} (hx : ∀ n, Abreast (R (n + 1)) x y (R n)) (made left : Nat) :
    Abreast (R (left + 1)) (Retry.attemptFrom p h x made left) (Retry.attemptFrom p k y made left)
      (R 0) := by
  induction left generalizing made with
  | zero =>
    refine Abreast.ending_bind (hx 0) fun r => ?_
    rcases r with (f | _) | a
    · exact Abreast.bind ((hk 0).log _) (fun _ => Abreast.fail f) le_rfl
    · exact Abreast.stop _
    · exact Abreast.pure a
  | succ left ih =>
    have hdown : R (left + 1) ≤ R 0 := antitone_nat_of_succ_le hR (Nat.zero_le _)
    refine Abreast.ending_bind (hx (left + 1)) fun r => ?_
    rcases r with (f | _) | a
    · refine Abreast.bind ((hk _).shouldRetry f) (fun again => ?_) hdown
      split
      · exact Abreast.bind (Retry.abreast_pause p (hk _) f made) (fun _ => ih (made + 1)) hdown
      · refine Abreast.mono ?_ le_rfl hdown
        exact Abreast.bind ((hk _).log _) (fun _ => Abreast.fail f) le_rfl
    · exact (Abreast.stop _).mono le_rfl hdown
    · exact (Abreast.pure a).mono le_rfl hdown

theorem Retry.abreast_run (p : Retry.Policy) {n : Nat} (hn : p.limit ≤ n)
    (hR : ∀ n, R (n + 1) ≤ R n) {h : Retry.Hooks s} {k : Retry.Hooks t}
    (hk : ∀ n, h.Abreast (R n) k) {x : Effect s α} {y : Effect t α}
    (hx : ∀ n, Abreast (R (n + 1)) x y (R n)) :
    Abreast (R n) (Retry.run p h x) (Retry.run p k y) (R 0) := by
  have hle : p.limit - 1 + 1 ≤ n := by
    have hpos := p.limit_pos
    omega
  exact (abreast_attemptFrom p hR hk hx 1 (p.limit - 1)).mono (antitone_nat_of_succ_le hR hle)
    le_rfl

end Loop

variable {τ σ ρ α : Type}

/-- Worlds between which what is counted, logged and injected makes no difference. -/
structure World.Unnoticed (R : World τ σ → World τ ρ → Prop) : Prop where
  ledgers : ∀ {w v}, R w v → v.ledgers = w.ledgers
  sharedSink : ∀ {w v}, R w v → v.sharedSink = w.sharedSink
  delivery : ∀ {w v}, R w v → v.delivery = w.delivery
  processFlags : ∀ {w v}, R w v → v.processFlags = w.processFlags
  environment : ∀ {w v}, R w v → v.environment = w.environment
  setLedgers : ∀ {w v}, R w v → ∀ ls, R { w with ledgers := ls } { v with ledgers := ls }
  setShared : ∀ {w v}, R w v → ∀ s, R { w with sharedSink := s } { v with sharedSink := s }
  addLog : ∀ {w v}, R w v → ∀ r, R (w.addLog r) (v.addLog r)
  addPublished : ∀ {w v}, R w v → ∀ d,
    R { w with published := w.published ++ [d] } { v with published := v.published ++ [d] }

section Observing

variable {R : World τ σ → World τ ρ → Prop} (hR : World.Unnoticed R)

include hR

theorem abreast_logged (r : LogRecord) : Abreast R (Run.logged r) (Run.logged r) R :=
  Abreast.modify fun _ _ hw => hR.addLog hw r

namespace Sink

theorem abreast_make (b : Backend) : Abreast R (make b) (make b) R := by
  refine Abreast.get_bind fun w v hw => ?_
  rw [hR.ledgers hw]
  refine Abreast.bind (Abreast.modify fun w v hw => ?_) (fun _ => Abreast.pure _) le_rfl
  rw [hR.ledgers hw]
  exact hR.setLedgers hw _

theorem abreast_setting (name : String) : Abreast R (Run.setting? name) (Run.setting? name) R := by
  refine Abreast.get_bind fun w v hw => ?_
  rw [hR.environment hw]
  exact Abreast.pure _

theorem abreast_namespaceOr (given : Json) :
    Abreast R (namespaceOr given) (namespaceOr given) R := by
  unfold namespaceOr
  split
  · exact Abreast.pure _
  · exact Abreast.bind (abreast_setting hR _) (fun _ => Abreast.pure _) le_rfl

theorem abreast_ofName (name given : Json) :
    Abreast R (ofName name given) (ofName name given) R := by
  unfold ofName
  extract_lets named named'
  have hn : ∀ text, Abreast R (named text : Run τ σ Sink) (named' text) R := by
    intro text
    unfold named named'
    split
    · exact abreast_make hR _
    · exact Abreast.bind (abreast_namespaceOr hR _) (fun _ => abreast_make hR _) le_rfl
    · exact abreast_make hR _
  split
  · exact Abreast.bind (Abreast.ofForeign _) hn le_rfl
  · exact Abreast.bind (abreast_setting hR _) (fun _ => hn _) le_rfl

theorem abreast_shared : Abreast R shared shared R := by
  refine Abreast.get_bind fun w v hw => ?_
  -- both worlds have the same shared sink, so that both make one or neither
  rw [hR.sharedSink hw]
  cases w.sharedSink with
  | some s => exact Abreast.pure s
  | none =>
    refine Abreast.bind (abreast_ofName hR _ _) (fun s => ?_) le_rfl
    exact Abreast.bind (Abreast.modify fun _ _ hw => hR.setShared hw _) (fun _ => Abreast.pure s)
      le_rfl

theorem abreast_publish (n : Json) (d : Datum) : Abreast R (publish n d) (publish n d) R := by
  refine Abreast.bind (Abreast.modify fun _ _ hw => hR.addPublished hw _) (fun _ => ?_) le_rfl
  refine Abreast.get_bind fun w v hw => ?_
  rw [hR.delivery hw]
  cases w.delivery with
  | accepted => exact Abreast.pure _
  | refused reason => exact abreast_logged hR _
  | broken f => exact Abreast.fail f

theorem abreast_count (s : Option Sink) (name : String) (labels : List (String × Json)) :
    Abreast R (count s name labels) (count s name labels) R := by
  refine Abreast.bind ?_ (fun s => ?_) le_rfl
  · cases s with
    | some s => exact Abreast.pure s
    | none => exact abreast_shared hR
  · unfold record
    split
    · refine Abreast.bind (Abreast.ofForeign _) (fun m => ?_) le_rfl
      refine Abreast.modify fun w v hw => ?_
      rw [World.modifyLedger, World.modifyLedger, hR.ledgers hw]
      exact hR.setLedgers hw _
    · exact abreast_logged hR _
    · exact Abreast.bind (Abreast.ofExcept _) (fun _ => abreast_publish hR _ _) le_rfl

end Sink

theorem abreast_inject (h : Fault.Harness) (identifier : String) :
    Abreast R (h.inject identifier) (h.inject identifier) R := by
  refine Abreast.get_bind fun w v hw => ?_
  have he : h.isEnabled v identifier = h.isEnabled w identifier := by
    rw [Fault.Harness.isEnabled, Fault.Harness.isEnabled, Fault.isEnabled, Fault.isEnabled,
      hR.processFlags hw, hR.environment hw]
  rw [he]
  split
  · exact Abreast.bind (abreast_logged hR _) (fun _ => Abreast.stop _) le_rfl
  · exact Abreast.pure _

end Observing

variable {R : Nat → World τ σ → World τ ρ → Prop} {g : Breaker.Guard (World τ σ)}
  {h : Breaker.Guard (World τ ρ)} {p : Provider τ σ} {q : Provider τ ρ}
  {wait : Binary64 → Run τ σ Unit} {rest : Binary64 → Run τ ρ Unit}

/-- Relations of worlds, by the attempts that are left, between which only an attempt makes a
difference. -/
structure World.Spending (R : Nat → World τ σ → World τ ρ → Prop) : Prop where
  unnoticed : ∀ n, World.Unnoticed (R n)
  succ_le : ∀ n, R (n + 1) ≤ R n

theorem Service.abreast_attempts (hR : World.Spending R) (s : Service)
    {n : Nat} (hn : s.policy.limit ≤ n) (hg : Abreast (R n) g.check h.check (R n))
    (hw : ∀ n d, Abreast (R n) (wait d) (rest d) (R n))
    (shouldRetry : Failure → Except Failure Bool) {onRetry : Failure → Nat → Run τ σ Unit}
    {tell : Failure → Nat → Run τ ρ Unit}
    (hr : ∀ n f made, Abreast (R n) (onRetry f made) (tell f made) (R n)) {x : Run τ σ α}
    {y : Run τ ρ α}
    (hx : ∀ n, Abreast (R (n + 1)) (s.attempt g x)
      (s.attempt h y) (R n)) :
    Abreast (R n) (s.attempts g wait shouldRetry onRetry x)
      (s.attempts h rest shouldRetry tell y) (R 0) := by
  refine Abreast.bind hg (fun _ => ?_) (antitone_nat_of_succ_le hR.succ_le (Nat.zero_le _))
  refine Retry.abreast_run _ hn hR.succ_le (fun n => ?_) hx
  exact ⟨fun f => Abreast.ofExcept _, hr n, hw n, abreast_logged (hR.unnoticed n)⟩

namespace Summary

theorem abreast_ask {R : World τ σ → World τ ρ → Prop} (hpq : q.name = p.name)
    (hp : ∀ system user json,
      Abreast R (p.generate system user json) (q.generate system user json) R)
    (system text : String) : Abreast R (ask p system text) (ask q system text) R := by
  refine Abreast.bind (hp _ _ _) (fun output => ?_) le_rfl
  rw [hpq]
  extract_lets answer
  split
  · exact Abreast.fail _
  · exact Abreast.pure _

theorem abreast_attempts (hR : World.Spending R) (s : Service)
    {n : Nat} (hn : s.policy.limit ≤ n) (hg : Abreast (R n) g.check h.check (R n))
    (hw : ∀ n d, Abreast (R n) (wait d) (rest d) (R n)) {system text : String}
    (hc : ∀ n, Abreast (R (n + 1)) (s.attempt g (ask p system text))
      (s.attempt h (ask q system text)) (R n)) (provider : String) (settings : Settings) :
    Abreast (R n)
      (s.attempts g wait Failure.isTransient (onRetry s provider settings) (ask p system text))
      (s.attempts h rest Failure.isTransient (onRetry s provider settings) (ask q system text))
      (R 0) := by
  refine Service.abreast_attempts hR s hn hg hw _ (fun n f made => ?_) hc
  have hu := hR.unnoticed n
  exact Abreast.bind (abreast_logged hu _) (fun _ => Sink.abreast_count hu _ _ _) le_rfl

theorem abreast_modelSummary (hR : World.Spending R) (hpq : q.name = p.name) (s : Service)
    {n : Nat} (hn : s.policy.limit ≤ n) (hg : Abreast (R n) g.check h.check (R n))
    (hw : ∀ n d, Abreast (R n) (wait d) (rest d) (R n)) {system text : String}
    (hc : ∀ n, Abreast (R (n + 1)) (s.attempt g (ask p system text))
      (s.attempt h (ask q system text)) (R n)) (settings : Settings) :
    Abreast (R n) (modelSummary s g p wait settings system text)
      (modelSummary s h q rest settings system text) (R 0) := by
  unfold modelSummary
  rw [hpq]
  refine Abreast.bind (abreast_attempts hR s hn hg hw hc _ _) (fun summary => ?_) le_rfl
  exact Abreast.bind (abreast_inject (hR.unnoticed 0) _ _) (fun _ => Abreast.pure _) le_rfl

/-- Summaries are made abreast if the checks, the guarded calls and the waits are. -/
theorem abreast_summarizeUnder (hR : World.Spending R) (hpq : q.name = p.name) (s : Service)
    {n : Nat} (hn : s.policy.limit ≤ n) (hg : Abreast (R n) g.check h.check (R n))
    (hw : ∀ n d, Abreast (R n) (wait d) (rest d) (R n))
    (hc : ∀ system text n, Abreast (R (n + 1)) (s.attempt g (ask p system text))
      (s.attempt h (ask q system text)) (R n)) (text : String) (settings : Json) :
    Abreast (R n) (summarizeUnder s g p wait text settings)
      (summarizeUnder s h q rest text settings) (R 0) := by
  have hdown : R n ≤ R 0 := antitone_nat_of_succ_le hR.succ_le (Nat.zero_le _)
  have hu := hR.unnoticed 0
  unfold summarizeUnder
  cases Request.of text settings with
  | error issues => exact (Abreast.fail _).mono le_rfl hdown
  | ok r =>
    dsimp only
    unfold answer
    rw [hpq]
    refine Abreast.bind (abreast_inject (hR.unnoticed _) _ _) (fun _ => ?_) hdown
    refine Abreast.ending_bind (abreast_modelSummary hR hpq s hn hg hw (hc _ _) _) fun r => ?_
    rcases r with (f | _) | summary
    · refine Abreast.bind (abreast_logged hu _) (fun _ => ?_) le_rfl
      refine Abreast.bind (Sink.abreast_count hu _ _ _) (fun _ => ?_) le_rfl
      exact Abreast.bind (abreast_inject hu _ _) (fun _ => Abreast.pure _) le_rfl
    · exact Abreast.stop _
    · refine Abreast.bind (Sink.abreast_count hu _ _ _) (fun _ => ?_) le_rfl
      exact Abreast.bind (abreast_logged hu _) (fun _ => Abreast.pure _) le_rfl

end Summary

namespace Localization

theorem abreast_attempts (hR : World.Spending R) (s : Service)
    {n : Nat} (hn : s.policy.limit ≤ n) (hg : Abreast (R n) g.check h.check (R n))
    (hw : ∀ n d, Abreast (R n) (wait d) (rest d) (R n)) {b : Batch}
    (hc : ∀ n, Abreast (R (n + 1)) (s.attempt g (p.translate b))
      (s.attempt h (q.translate b)) (R n)) (provider : String) :
    Abreast (R n)
      (s.attempts g wait (fun f => .ok f.isRetriable) (onRetry s provider b) (p.translate b))
      (s.attempts h rest (fun f => .ok f.isRetriable) (onRetry s provider b) (q.translate b))
      (R 0) := by
  refine Service.abreast_attempts hR s hn hg hw _ (fun n f made => ?_) hc
  have hu := hR.unnoticed n
  exact Abreast.bind (abreast_logged hu _) (fun _ => Sink.abreast_count hu _ _ _) le_rfl

/-- Batches are translated abreast if the checks, the guarded calls and the waits are. -/
theorem abreast_translateBatchUnder (hR : World.Spending R) (hpq : q.name = p.name) (s : Service)
    {n : Nat} (hn : s.policy.limit ≤ n) (hg : Abreast (R n) g.check h.check (R n))
    (hw : ∀ n d, Abreast (R n) (wait d) (rest d) (R n)) (b : Batch)
    (hc : ∀ n, Abreast (R (n + 1)) (s.attempt g (p.translate b))
      (s.attempt h (q.translate b)) (R n)) :
    Abreast (R n) (translateBatchUnder s g p wait b)
      (translateBatchUnder s h q rest b) (R 0) := by
  have hdown : R n ≤ R 0 := antitone_nat_of_succ_le hR.succ_le (Nat.zero_le _)
  have hu := hR.unnoticed 0
  unfold translateBatchUnder
  split
  · exact (Abreast.pure _).mono le_rfl hdown
  split
  · exact (Abreast.fail _).mono le_rfl hdown
  unfold answer
  rw [hpq]
  refine Abreast.bind (abreast_inject (hR.unnoticed _) _ _) (fun _ => ?_) hdown
  refine Abreast.ending_bind (abreast_attempts hR s hn hg hw hc _) fun r => ?_
  rcases r with (f | _) | results
  · refine Abreast.bind (Sink.abreast_count hu _ _ _) (fun _ => ?_) le_rfl
    exact Abreast.bind (abreast_logged hu _) (fun _ => Abreast.fail _) le_rfl
  · exact Abreast.stop _
  · refine Abreast.bind (abreast_inject hu _ _) (fun _ => ?_) le_rfl
    refine Abreast.bind (Sink.abreast_count hu _ _ _) (fun _ => ?_) le_rfl
    exact Abreast.bind (abreast_logged hu _) (fun _ => Abreast.pure _) le_rfl

end Localization

end ResilientCalls
