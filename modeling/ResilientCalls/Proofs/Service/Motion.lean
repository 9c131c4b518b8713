import ResilientCalls.Localization.Service
import ResilientCalls.Proofs.Breaker.Steps
import ResilientCalls.Summary.Service

namespace ResilientCalls

open Effect World

variable {τ σ α : Type}

section Guard

variable {s : Type} {R : s → s → Prop} [Std.Refl R] [IsTrans s R] {g : Breaker.Guard s}
  {body : Effect s α}

/-- From where a body has ended, its outcome is reported as the guard reports it. -/
theorem Breaker.after_reporting (hs : Moves R g.succeed) (hf : Moves R g.fail) (w : s) :
    R (body w).2 (g.reporting body w).2 := by
  have htold : ∀ a : α, Moves R (g.succeed >>= fun _ => Pure.pure a) :=
    fun a => Moves.bind hs fun _ => Moves.pure a
  refine trans_of R (Moves.after_bind htold w) (Moves.after_ending (fun r => ?_) w)
  extract_lets conclusion
  split
  · exact Moves.bind hf fun _ => Moves.conclude _
  · exact Moves.conclude _

theorem Breaker.reporting_from {w : s} (hb : R w (body w).2) (hs : Moves R g.succeed)
    (hf : Moves R g.fail) : R w (g.reporting body w).2 :=
  trans_of R hb (after_reporting hs hf w)

theorem Breaker.moves_reporting (hb : Moves R body) (hs : Moves R g.succeed)
    (hf : Moves R g.fail) : Moves R (g.reporting body) := fun w => reporting_from (hb w) hs hf

/-- The body of a call needs to move only from where it is admitted. -/
theorem Breaker.moves_call_of_gives {P : Breaker.Ticket → s → Prop} (he : Moves R g.enter)
    (hp : Gives P g.enter) (hb : ∀ t w, P t w → R w (body w).2) (hs : Moves R g.succeed)
    (hf : Moves R g.fail) (hr : ∀ t, Moves R (g.release t)) : Moves R (g.call body) := by
  refine Moves.bind_of_gives he hp fun t w hw => ?_
  refine Moves.bind_from ?_ fun r => Moves.bind (hr t) fun _ => Moves.conclude r
  exact reporting_from (hb t w hw) hs hf

end Guard

section Observed

theorem Summary.moves_onRetry (s : Service) (provider : String) (settings : Summary.Settings)
    (f : Failure) (made : Nat) :
    Moves Observed (Summary.onRetry s provider settings f made : Run τ σ Unit) :=
  Moves.bind (moves_logged _) fun _ => Sink.moves_count _ _ _

theorem Summary.moves_fallback (s : Service) (provider : String) (settings : Summary.Settings)
    (text : String) (inputTokens : Nat) (f : Failure) :
    Moves Observed (Summary.fallback s provider settings text inputTokens f : Run τ σ _) := by
  refine Moves.bind (moves_logged _) fun _ => Moves.bind (Sink.moves_count _ _ _) fun _ => ?_
  exact Moves.bind (moves_inject _ _) fun _ => Moves.pure _

theorem Summary.moves_succeeded (s : Service) (provider : String) (settings : Summary.Settings)
    (text : String) (inputTokens : Nat) (summary : CodePoints) : Moves Observed
      (Summary.succeeded s provider settings text inputTokens summary : Run τ σ _) := by
  refine Moves.bind (Sink.moves_count _ _ _) fun _ => ?_
  exact Moves.bind (moves_logged _) fun _ => Moves.pure _

theorem Localization.moves_onRetry (s : Service) (provider : String) (b : Localization.Batch)
    (f : Failure) (made : Nat) :
    Moves Observed (Localization.onRetry s provider b f made : Run τ σ Unit) :=
  Moves.bind (moves_logged _) fun _ => Sink.moves_count _ _ _

theorem Localization.moves_failed (s : Service) (provider : String) (b : Localization.Batch)
    (f : Failure) : Moves Observed (Localization.failed s provider b f : Run τ σ _) := by
  refine Moves.bind (Sink.moves_count _ _ _) fun _ => ?_
  exact Moves.bind (moves_logged _) fun _ => Moves.fail _

theorem Localization.moves_succeeded (s : Service) (provider : String) (b : Localization.Batch)
    (results : List Localization.Result) :
    Moves Observed (Localization.succeeded s provider b results : Run τ σ _) := by
  refine Moves.bind (moves_inject _ _) fun _ => Moves.bind (Sink.moves_count _ _ _) fun _ => ?_
  exact Moves.bind (moves_logged _) fun _ => Moves.pure _

end Observed

variable {R : World τ σ → World τ σ → Prop} [Std.Refl R] [IsTrans (World τ σ) R]
  {g : Breaker.Guard (World τ σ)} {p : Provider τ σ} {wait : Binary64 → Run τ σ Unit}

/-- One of a service's attempts. -/
abbrev Service.attempt (s : Service) (g : Breaker.Guard (World τ σ)) (body : Run τ σ α) :
    Run τ σ α :=
  g.call do
    s.checkpoint "retry-attempt"
    body

theorem Service.moves_attempts (hR : ∀ w w', Observed w w' → R w w') (hg : Moves R g.check)
    (hw : ∀ d, Moves R (wait d)) (s : Service) (shouldRetry : Failure → Except Failure Bool)
    {onRetry : Failure → Nat → Run τ σ Unit} (hr : ∀ f made, Moves Observed (onRetry f made))
    {body : Run τ σ α}
    (hc : Moves R (s.attempt g body)) :
    Moves R (s.attempts g wait shouldRetry onRetry body) := by
  refine Moves.bind hg fun _ => Retry.moves_run _ ?_ hc
  refine ⟨fun f => Moves.ofExcept _, fun f made => (hr f made).mono hR, hw, fun r _ => ?_⟩
  exact (moves_logged r).mono hR

/-- An attempt under the guard of a breaker moves as its body does, along all that steps of breakers
move along. -/
theorem Service.moves_attempt_guard [Clock τ] (hR : ∀ w w', Steady w w' → R w w') (s : Service)
    {body : Run τ σ α} (hb : Moves R body) : Moves R (s.attempt s.guard body) := by
  have hsteady : ∀ {β : Type} {x : Run τ σ β}, Moves Steady x → Moves R x := fun hx => hx.mono hR
  refine Moves.bind (hsteady (Breaker.moves_enter s.breaker)) fun ticket => ?_
  refine Moves.thereafter (Breaker.moves_reporting ?_ ?_ ?_) ?_
  · exact Moves.bind ((moves_inject _ _).mono fun _ _ h => hR _ _ h.steady) fun _ => hb
  · exact hsteady (Breaker.moves_advance s.breaker _)
  · exact hsteady (Breaker.moves_advance s.breaker _)
  · exact hsteady (Breaker.moves_guard_release s.breaker ticket)

theorem Service.moves_attempts_guard [Clock τ] (hR : ∀ w w', Steady w w' → R w w')
    (hw : ∀ d, Moves R (wait d)) (s : Service) (shouldRetry : Failure → Except Failure Bool)
    {onRetry : Failure → Nat → Run τ σ Unit} (hr : ∀ f made, Moves Observed (onRetry f made))
    {body : Run τ σ α} (hb : Moves R body) :
    Moves R (s.attempts s.guard wait shouldRetry onRetry body) := by
  have hobserved : ∀ w w' : World τ σ, Observed w w' → R w w' := fun _ _ h => hR _ _ h.steady
  refine moves_attempts hobserved ((Breaker.moves_check s.breaker).mono hobserved) hw s _ hr ?_
  exact moves_attempt_guard hR s hb

namespace Summary

theorem moves_ask (hp : ∀ system user json, Moves R (p.generate system user json))
    (system text : String) : Moves R (ask p system text) := by
  refine Moves.bind (hp _ _ _) fun answer => ?_
  extract_lets output
  split
  · exact Moves.fail _
  · exact Moves.pure _

/-- Summarizing moves the world as the checks, the guarded calls and the waits do. -/
theorem moves_summarizeUnder (hR : ∀ w w', Observed w w' → R w w') (hg : Moves R g.check)
    (s : Service)
    (hc : ∀ system text, Moves R (s.attempt g (ask p system text)))
    (hw : ∀ d, Moves R (wait d)) (text : String) (settings : Json) :
    Moves R (summarizeUnder s g p wait text settings) := by
  unfold summarizeUnder
  split
  · exact Moves.fail _
  · refine Moves.bind ((moves_inject _ _).mono hR) fun _ => ?_
    refine Moves.bind (Moves.ending ?_) fun r => ?_
    · refine Moves.bind ?_ fun _ => ?_
      · exact Service.moves_attempts hR hg hw s _ (moves_onRetry s _ _) (hc _ _)
      · exact Moves.bind ((moves_inject _ _).mono hR) fun _ => Moves.pure _
    · rcases r with (f | _) | summary
      · exact (moves_fallback s _ _ _ _ f).mono hR
      · exact Moves.stop _
      · exact (moves_succeeded s _ _ _ _ summary).mono hR

end Summary

namespace Localization

/-- Translating moves the world as the checks, the guarded calls and the waits do. -/
theorem moves_translateBatchUnder (hR : ∀ w w', Observed w w' → R w w') (hg : Moves R g.check)
    (s : Service) (b : Batch)
    (hc : Moves R (s.attempt g (p.translate b)))
    (hw : ∀ d, Moves R (wait d)) :
    Moves R (translateBatchUnder s g p wait b) := by
  unfold translateBatchUnder
  split
  · exact Moves.pure _
  split
  · exact Moves.fail _
  refine Moves.bind ((moves_inject _ _).mono hR) fun _ => ?_
  refine Moves.bind (Moves.ending ?_) fun r => ?_
  · exact Service.moves_attempts hR hg hw s _ (moves_onRetry s _ b) hc
  · rcases r with (f | _) | results
    · exact (moves_failed s _ b f).mono hR
    · exact Moves.stop _
    · exact (moves_succeeded s _ b results).mono hR

end Localization

end ResilientCalls
