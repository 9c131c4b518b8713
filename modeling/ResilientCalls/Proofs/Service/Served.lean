import ResilientCalls.Proofs.Breaker.Balance
import ResilientCalls.Proofs.Service.Motion

namespace ResilientCalls

open Effect World

variable {τ σ α : Type}

namespace Breaker

/-- No slot of any breaker is taken. -/
def Registry.Idle (r : Registry τ) : Prop := ∀ id c, r.cell? id = some c → c.state.inFlight = 0

theorem Balanced.idle {w w' : World τ σ} (h : Balanced w w') (hw : w.registry.Idle) :
    w'.registry.Idle := by
  intro id c hc
  cases hc₀ : w.registry.cell? id with
  | none => exact h.added id c hc₀ hc
  | some c₀ =>
    have hn := hw id c₀ hc₀
    obtain ⟨c₁, hc₁, hs⟩ := h.kept id c₀ hc₀
    obtain rfl : c₁ = c := Option.some.inj (hc₁.symm.trans hc)
    rcases (hs 0 hn).inFlight with hi | hi
    · exact hi.trans hn
    · exact hi

variable [Clock τ]

/-- An idle breaker refuses only while it is switched on and open. -/
theorem enter_of_idle {id : Id} {w : World τ σ} {c : Cell τ} {e : Stop}
    (hc : w.registry.cell? id = some c) (hn : c.state.inFlight = 0) (hw : w.Delivers)
    (h : (enter id w).1 = .error e) :
    c.config.isEnabled = true ∧ c.state.phase = .opened ∧
      c.state.remainingMs c.config w.now ≠ .ok 0 := by
  cases hen : c.config.isEnabled with
  | false =>
    rw [enter_of_disabled hc hen] at h
    cases h
  | true =>
    by_cases hv : c.state.verdict c.config w.now = .ok .granted
    · obtain ⟨w', hok, -⟩ := enter_of_granted hc hen hv hw
      rw [hok] at h
      cases h
    · have hidle := State.verdict_of_idle hn hv
      exact ⟨rfl, hidle.2⟩

theorem moves_call_balanced (id : Id) {body : Run τ σ α} (hb : Moves Balanced body) :
    Moves Balanced ((guard id).call body) := by
  apply moves_hold_balanced
  apply moves_reporting hb
  · exact moves_advance_balanced id fun s k now => s.recordSuccess_settles now k
  · exact moves_advance_balanced id fun s k now => s.recordFailure_settles now k

end Breaker

variable [Clock τ]

/-- Computations that leave the breakers alone, except that they reset and configure them and call
services, whose providers and waits may do the same. -/
inductive Served : {α : Type} → Run τ σ α → Prop where
  | apart {α : Type} {x : Run τ σ α} : (∀ w, (x w).2.registry.cells = w.registry.cells) → Served x
  | bind {α β : Type} {x : Run τ σ α} {f : α → Run τ σ β} :
      Served x → (∀ a, Served (f a)) → Served (x >>= f)
  | ending {α : Type} {x : Run τ σ α} : Served x → Served (Effect.ending x)
  | reset (id : Breaker.Id) : Served (Breaker.reset id)
  | configure (id : Breaker.Id) (k : Breaker.Config) : Served (Breaker.configure id k)
  | enroll (k : Breaker.Config) : Served (Breaker.enroll k)
  | summarize (s : Service) (p : Provider τ σ) (wait : Binary64 → Run τ σ Unit) (text : String)
      (settings : Json) : (∀ system user json, Served (p.generate system user json)) →
      (∀ d, Served (wait d)) → Served (Summary.summarize s p wait text settings)
  | translateBatch (s : Service) (p : Provider τ σ) (wait : Binary64 → Run τ σ Unit)
      (b : Localization.Batch) : (∀ b, Served (p.translate b)) → (∀ d, Served (wait d)) →
      Served (Localization.translateBatch s p wait b)

namespace Served

theorem balanced {x : Run τ σ α} (h : Served x) : Moves Breaker.Balanced x := by
  have hcheck : ∀ {id}, Moves Breaker.Balanced (Breaker.check id : Run τ σ Unit) :=
    (Breaker.moves_check _).mono fun _ _ => .of_observed
  have hcall : ∀ {β : Type} (s : Service) {body : Run τ σ β}, Moves Breaker.Balanced body →
      Moves Breaker.Balanced (s.attempt s.guard body) := by
    intro β s body hb
    apply Breaker.moves_call_balanced
    exact Moves.bind ((moves_inject _ _).mono fun _ _ => .of_observed) fun _ => hb
  induction h with
  | apart hx => exact fun w => .of_cells_eq (hx w)
  | bind _ _ hx hf => exact Moves.bind hx hf
  | ending _ hx => exact Moves.ending hx
  | reset id => exact Breaker.moves_advance_balanced id fun s _ now => s.reset_settles now
  | configure id k => exact Breaker.moves_configure_balanced id k
  | enroll k => exact Breaker.moves_enroll_balanced k
  | summarize s p wait text settings _ _ hp hw =>
    refine Summary.moves_summarizeUnder (fun _ _ => .of_observed) hcheck s ?_ hw text settings
    intro system text
    exact hcall s (Summary.moves_ask hp system text)
  | translateBatch s p wait b _ _ hp hw =>
    exact Localization.moves_translateBatchUnder (fun _ _ => .of_observed) hcheck s b
      (hcall s (hp b)) hw

end Served

end ResilientCalls
