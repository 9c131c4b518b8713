import ResilientCalls.Proofs.Service.Fallback
import ResilientCalls.Proofs.Service.Journal
import ResilientCalls.Proofs.Service.Served

namespace ResilientCalls

open Effect World

variable {τ σ α β : Type}

namespace Journal

inductive Event where
  | refused
  | entered (t : Breaker.Ticket)
  /-- The provider was asked; an answer that cannot be used is a failed one. -/
  | replied (e : Ending)
  | succeeded
  | failed
  | released (t : Breaker.Ticket)

/-- An attempt that is refused, one that a fault ends before the provider is asked, or one whose
provider replied in some way. -/
inductive Attempt where
  | refused
  | faulted (t : Breaker.Ticket)
  | made (t : Breaker.Ticket) (e : Ending)

/-- What is to be reported of an attempt that ended so. -/
def report : Ending → List Event
  | .returned => [.succeeded]
  | .failed _ => [.failed]
  | .cancelled => []

/-- What is to be noted of an attempt. -/
def Attempt.events : Attempt → List Event
  | refused => [.refused]
  | faulted t => [.entered t, .failed, .released t]
  | made t e => [.entered t, .replied e] ++ report e ++ [.released t]

/-- An answer of blanks holds no summary. -/
def endingOfAnswer (name : String) (r : Except Stop CodePoints) : Ending :=
  match r with
  | .ok answer =>
    if answer.trim = [] then .failed (.emptyResponse name "") else .returned
  | .error e => .of (.error e : Except Stop Unit)

/-- The provider, with what it replies to a service noted. -/
def provider (p : Provider τ σ) : Provider τ (List Event × σ) :=
  noting (fun r => .replied (endingOfAnswer p.name r)) (fun r => Event.replied (.of r)) p

/-- The guard, with what it is asked noted. -/
def guard (g : Breaker.Guard (Noted Event τ σ)) : Breaker.Guard (Noted Event τ σ) where
  check := g.check
  enter := do
    match ← Effect.ending g.enter with
    | .ok t => do
      note (.entered t)
      return t
    | .error e => do
      note .refused
      Effect.stop e
  succeed := do
    note .succeeded
    g.succeed
  fail := do
    note .failed
    g.fail
  release t := do
    note (.released t)
    g.release t

theorem follow_guard {g : Breaker.Guard (Noted Event τ σ)} {h : Breaker.Guard (World τ σ)}
    (hg : g.Follow (World.mapOutside Prod.snd) h) :
    (guard g).Follow (World.mapOutside Prod.snd) h where
  check := hg.check
  enter := by
    refine mirrors_ending_bind hg.enter fun r => ?_
    cases r with
    | ok t => exact mirrors_note (Follows.pure t)
    | error e => exact mirrors_note (Follows.stop e)
  succeed := mirrors_note hg.succeed
  fail := mirrors_note hg.fail
  release t := mirrors_note (hg.release t)

variable [Clock τ] (id : Breaker.Id)

theorem writes_enter : Writes (guard (Breaker.guard id : Breaker.Guard (Noted Event τ σ))).enter
    fun r js => (∃ e, r = .error e ∧ js = [.refused]) ∨ ∃ t, r = .ok t ∧ js = [.entered t] := by
  have henter : Writes (Breaker.enter id : Run τ (List Event × σ) Breaker.Ticket)
      fun _ js => js = [] := Writes.of_steady (Breaker.moves_enter id) fun _ _ => rfl
  refine Writes.ending_bind henter fun r js hjs => ?_
  subst hjs
  cases r with
  | ok t => exact Writes.note_bind (Writes.conclude (.ok t) (Or.inr ⟨t, rfl, rfl⟩))
  | error e => exact Writes.note_bind (Writes.conclude (.error e) (Or.inl ⟨e, rfl, rfl⟩))

theorem writes_succeed : Writes (guard (Breaker.guard id : Breaker.Guard (Noted Event τ σ))).succeed
    fun r js => r = .ok () ∧ js = [.succeeded] := by
  refine Writes.note_bind (Writes.of_steady (Breaker.moves_advance id _) fun w hw => ?_)
  obtain ⟨-, u, hu⟩ := Breaker.returns_advance id Breaker.State.recordSuccess w hw
  exact ⟨hu, rfl⟩

theorem writes_fail : Writes (guard (Breaker.guard id : Breaker.Guard (Noted Event τ σ))).fail
    fun _ js => js = [.failed] :=
  Writes.note_bind (Writes.of_steady (Breaker.moves_advance id _) fun _ _ => rfl)

theorem writes_release (t : Breaker.Ticket) :
    Writes ((guard (Breaker.guard id : Breaker.Guard (Noted Event τ σ))).release t)
      fun _ js => js = [.released t] := by
  refine Writes.note_bind (Writes.of_steady ?_ fun _ _ => rfl)
  exact Moves.bind (Breaker.moves_release id t) fun _ => Moves.pure _

theorem writes_reporting {body : Run τ (List Event × σ) α}
    {Q : Except Stop α → List Event → Prop} (hb : Writes body Q) :
    Writes ((guard (Breaker.guard id)).reporting body)
      fun _ js => ∃ r ks, Q r ks ∧ js = ks ++ report (.of r) := by
  have hrecorded : Writes (body >>= fun a => do
      (guard (Breaker.guard id)).succeed
      return a)
      fun r js => (∃ a ks, r = .ok a ∧ Q r ks ∧ js = ks ++ [.succeeded]) ∨
        ∃ e, r = .error e ∧ Q r js := by
    refine Writes.bind hb (fun a ks hq => ?_) fun e ks hq => Or.inr ⟨e, rfl, hq⟩
    refine Writes.bind (writes_succeed id) (fun u js hjs => ?_) fun e js hjs => ?_
    · obtain ⟨-, rfl⟩ := hjs
      exact Writes.conclude (.ok a) (Or.inl ⟨a, ks, rfl, hq, rfl⟩)
    · cases hjs.1
  refine Writes.ending_bind hrecorded fun r js hjs => ?_
  rcases hjs with ⟨a, ks, rfl, hq, rfl⟩ | ⟨f | _, rfl, hq⟩
  · refine Writes.conclude (.ok a) ⟨_, ks, hq, ?_⟩
    exact List.append_nil _
  · refine Writes.bind (writes_fail id) (fun u ks hks => ?_) fun e ks hks => ?_
    · exact Writes.conclude (.error _) ⟨_, js, hq, by rw [hks]; rfl⟩
    · exact ⟨_, js, hq, by rw [hks]; rfl⟩
  · exact Writes.conclude (.error .cancelled) ⟨_, js, hq, rfl⟩

theorem writes_call {body : Run τ (List Event × σ) α} {Q : Except Stop α → List Event → Prop}
    (hb : Writes body Q) :
    Writes ((guard (Breaker.guard id)).call body) fun _ js => js = [.refused] ∨
      ∃ t r ks, Q r ks ∧ js = .entered t :: (ks ++ report (.of r)) ++ [.released t] := by
  refine Writes.bind (writes_enter id) (fun t js hjs => ?_) fun e js hjs => ?_
  · rcases hjs with ⟨e, he, -⟩ | ⟨u, hu, rfl⟩
    · cases he
    · cases hu
      refine Writes.ending_bind (writes_reporting id hb) fun r ks hks => ?_
      obtain ⟨q, ls, hq, rfl⟩ := hks
      refine Writes.bind (writes_release id t) (fun u ms hms => ?_) fun e ms hms => ?_
      · exact Writes.conclude r (Or.inr ⟨t, q, ls, hq, by simp [hms]⟩)
      · exact Or.inr ⟨t, q, ls, hq, by simp [hms]⟩
  · rcases hjs with ⟨-, -, rfl⟩ | ⟨u, hu, -⟩
    · exact Or.inl rfl
    · cases hu

/-- A world and a later one whose journal goes on with whole attempts. -/
def Bracketed (w w' : Noted Event τ σ) : Prop :=
  w.Delivers → w'.Delivers ∧
    ∃ as : List Attempt, w'.outside.1 = w.outside.1 ++ as.flatMap Attempt.events

omit [Clock τ] in
theorem bracketed_of_steady {w w' : Noted Event τ σ} (h : Steady w w') : Bracketed w w' := by
  intro hw
  exact ⟨h.delivers hw, [], by rw [h.outside]; exact (List.append_nil _).symm⟩

instance : Std.Refl (@Bracketed τ σ) := ⟨fun w => bracketed_of_steady (refl_of Steady w)⟩

instance : IsTrans (Noted Event τ σ) Bracketed := by
  refine ⟨fun w₁ w₂ w₃ h k hw => ?_⟩
  obtain ⟨hw₂, as, has⟩ := h hw
  obtain ⟨hw₃, bs, hbs⟩ := k hw₂
  refine ⟨hw₃, as ++ bs, ?_⟩
  rw [hbs, has, List.flatMap_append, List.append_assoc]

omit [Clock τ] in
theorem moves_bracketed_of_writes {x : Run τ (List Event × σ) α}
    (hx : Writes x fun _ js => ∃ as : List Attempt, js = as.flatMap Attempt.events) :
    Moves Bracketed x := by
  intro w hw
  obtain ⟨hd, js, hjs, as, rfl⟩ := hx w hw
  exact ⟨hd, as, hjs⟩

/-- A call whose body may be ended by a fault before the provider's reply is one attempt. -/
theorem moves_call_bracketed (s : Service) {body : Run τ (List Event × σ) α}
    (hb : Writes body fun r js => js = [.replied (.of r)]) :
    Moves Bracketed (s.attempt (guard (Breaker.guard id)) body) := by
  have hbody : Writes (s.checkpoint "retry-attempt" >>= fun _ => body) fun r js =>
      ((∃ f, Ending.of r = .failed f) ∧ js = []) ∨ js = [.replied (.of r)] := by
    -- a fault at the checkpoint ends the attempt before the provider is asked
    refine Writes.bind (writes_checkpoint s _) (fun u js hjs => ?_) fun e js hjs => ?_
    · obtain ⟨rfl, -⟩ := hjs
      exact hb.mono fun r js hjs => Or.inr hjs
    · obtain ⟨rfl, he⟩ := hjs
      obtain rfl := he e rfl
      exact Or.inl ⟨⟨_, rfl⟩, rfl⟩
  apply moves_bracketed_of_writes
  refine (writes_call id hbody).mono fun _ js hjs => ?_
  rcases hjs with rfl | ⟨t, r, ks, ⟨⟨f, hr⟩, rfl⟩ | rfl, rfl⟩
  · exact ⟨[.refused], rfl⟩
  · exact ⟨[.faulted t], by simp [hr, report, Attempt.events]⟩
  · exact ⟨[.made t (.of r)], by simp [Attempt.events]⟩

omit [Clock τ] in
theorem writes_ask {p : Provider τ σ}
    (hp : ∀ system user json, Moves (Keeping Delivers) (p.generate system user json))
    (system text : String) :
    Writes (Summary.ask (provider p) system text) fun r js => js = [.replied (.of r)] := by
  have hreply := writes_replying (hp system (Summary.userPrompt text) false)
    fun r => Event.replied (endingOfAnswer p.name r)
  refine Writes.bind hreply (fun answer js hjs => ?_) fun e js hjs => ?_
  · subst hjs
    extract_lets output
    split
    · refine Writes.conclude (.error (.failed _)) ?_
      have hblank : answer.trim = [] := ‹_›
      simp [endingOfAnswer, hblank, Ending.of, provider, noting]
    · refine Writes.conclude (.ok output) ?_
      have hused : answer.trim ≠ [] := ‹_›
      simp [endingOfAnswer, hused, Ending.of]
  · subst hjs
    rcases e with f | _ <;> rfl

omit [Clock τ] in
theorem run_of_bracketed {x : Run τ (List Event × σ) α} {y : Run τ σ α}
    (hm : Mirrors Prod.snd x y) (hx : Moves Bracketed x) {w : World τ σ} (hw : w.Delivers) :
    ∃ as : List Attempt,
      x (withJournal [] w) = ((y w).1, withJournal (as.flatMap Attempt.events) (y w).2) := by
  obtain ⟨-, as, has⟩ := hx (withJournal [] w) hw
  exact ⟨as, journal_of_mirrors hm has⟩

variable {p : Provider τ σ} {wait : Binary64 → Run τ σ Unit} {w : World τ σ}

theorem summarize_bracketed
    (hp : ∀ system user json, Moves (Keeping Delivers) (p.generate system user json))
    (hwait : ∀ d, Moves (Keeping Delivers) (wait d)) (s : Service) (text : String)
    (settings : Json) (hw : w.Delivers) : ∃ as : List Attempt,
      Summary.summarizeUnder s (guard s.guard) (provider p) (fun d => blind (wait d)) text settings
          (withJournal [] w) =
        ((Summary.summarize s p wait text settings w).1,
          withJournal (as.flatMap Attempt.events)
            (Summary.summarize s p wait text settings w).2) := by
  apply run_of_bracketed _ _ hw
  · exact Summary.mirrors_summarizeUnder (follow_guard (Breaker.mirrors_guard _ s.breaker))
      (mirror_noting _ _ p) (fun d => mirrors_blind (wait d)) s text settings
  · apply Summary.moves_summarizeUnder fun _ _ h => bracketed_of_steady h.steady
    · exact (Breaker.moves_check s.breaker).mono fun _ _ h => bracketed_of_steady h.steady
    · intro system text
      exact moves_call_bracketed s.breaker s (writes_ask hp system text)
    · intro d
      refine moves_bracketed_of_writes ((Writes.blind (hwait d)).mono fun _ _ hjs => ?_)
      exact ⟨[], hjs⟩

theorem translateBatch_bracketed (hp : ∀ b, Moves (Keeping Delivers) (p.translate b))
    (hwait : ∀ d, Moves (Keeping Delivers) (wait d)) (s : Service) (b : Localization.Batch)
    (hw : w.Delivers) : ∃ as : List Attempt,
      Localization.translateBatchUnder s (guard s.guard) (provider p) (fun d => blind (wait d)) b
          (withJournal [] w) =
        ((Localization.translateBatch s p wait b w).1,
          withJournal (as.flatMap Attempt.events)
            (Localization.translateBatch s p wait b w).2) := by
  apply run_of_bracketed _ _ hw
  · exact Localization.mirrors_translateBatchUnder
      (follow_guard (Breaker.mirrors_guard _ s.breaker)) (mirror_noting _ _ p)
      (fun d => mirrors_blind (wait d)) s b
  · apply Localization.moves_translateBatchUnder fun _ _ h => bracketed_of_steady h.steady
    · exact (Breaker.moves_check s.breaker).mono fun _ _ h => bracketed_of_steady h.steady
    · exact moves_call_bracketed s.breaker s (writes_replying (hp b) fun r => Event.replied (.of r))
    · intro d
      refine moves_bracketed_of_writes ((Writes.blind (hwait d)).mono fun _ _ hjs => ?_)
      exact ⟨[], hjs⟩

/-- Every attempt of a service is bracketed, whatever its provider does: a call does with a journal
what it does without one, and notes whole attempts. So a registry that is only used by services has
no slot taken when they have ended, and its breakers refuse only while they are switched on and
open. The same holds of a breaker that is used in any order, once all its tickets are given back. -/
theorem attempts_bracketed (τ σ : Type) [Clock τ] :
    (∀ (s : Service) (p : Provider τ σ) (wait : Binary64 → Run τ σ Unit) (w : World τ σ),
      w.Delivers →
      (∀ system user json, Moves (Keeping Delivers) (p.generate system user json)) →
      (∀ b, Moves (Keeping Delivers) (p.translate b)) →
      (∀ d, Moves (Keeping Delivers) (wait d)) →
      (∀ text settings, ∃ as : List Attempt,
        Summary.summarizeUnder s (guard s.guard) (provider p) (fun d => blind (wait d)) text
            settings (withJournal [] w) =
          ((Summary.summarize s p wait text settings w).1,
            withJournal (as.flatMap Attempt.events)
              (Summary.summarize s p wait text settings w).2)) ∧
      ∀ b, ∃ as : List Attempt,
        Localization.translateBatchUnder s (guard s.guard) (provider p) (fun d => blind (wait d)) b
            (withJournal [] w) =
          ((Localization.translateBatch s p wait b w).1,
            withJournal (as.flatMap Attempt.events)
              (Localization.translateBatch s p wait b w).2)) ∧
    (∀ (α : Type) (x : Run τ σ α) (w : World τ σ), Served x → w.registry.Idle →
      ∀ id c, (x w).2.registry.cell? id = some c → c.state.inFlight = 0 ∧
        ∀ (v : World τ σ) (e : Stop), v.registry.cell? id = some c → v.Delivers →
          (Breaker.enter id v).1 = .error e →
          c.config.isEnabled = true ∧ c.state.phase = .opened ∧
            c.state.remainingMs c.config v.now ≠ .ok 0) ∧
    ∀ (w : World τ σ) (config : Breaker.Config) (us : List (Breaker.Use τ)),
      (∀ t ∈ ((Breaker.Session.start w config).run us).tickets, t.IsSpent) →
      ∃ c, ((Breaker.Session.start w config).run us).cell? = some c ∧ c.state.inFlight = 0 ∧
        ∀ (v : World τ σ) (id : Breaker.Id) (e : Stop), v.registry.cell? id = some c → v.Delivers →
          (Breaker.enter id v).1 = .error e →
          c.config.isEnabled = true ∧ c.state.phase = .opened ∧
            c.state.remainingMs c.config v.now ≠ .ok 0 := by
  refine ⟨fun s p wait w hw hgenerate htranslate hwait => ⟨?_, ?_⟩, ?_, ?_⟩
  · intro text settings
    exact summarize_bracketed hgenerate hwait s text settings hw
  · intro b
    exact translateBatch_bracketed htranslate hwait s b hw
  · intro α x w hx hw id c hc
    have hn := (hx.balanced w).idle hw id c hc
    exact ⟨hn, fun v e hv hd he => Breaker.enter_of_idle hv hn hd he⟩
  · intro w config us hspent
    obtain ⟨c, hc, hn⟩ := Breaker.Session.run_of_spent w config us hspent
    exact ⟨c, hc, hn, fun v id e hv hd he => Breaker.enter_of_idle hv hn hd he⟩

namespace Silent

open Summary.Enrolled

/-- An event by name, and a failed reply by the failure's message. -/
def told : Event → String
  | .refused => "refused"
  | .entered _ => "entered"
  | .replied (.failed f) => f.message
  | .replied _ => "replied"
  | .succeeded => "succeeded"
  | .failed => "failed"
  | .released _ => "released"

/-- Of the attempts to have a text summarized that is not answered, one is made, and the next one is
refused. -/
theorem attempts_bracketed_silent : ∃ as : List Attempt,
    Summary.summarizeUnder service (guard service.guard) (provider silent) (fun d => blind (rest d))
        text .null (withJournal [] session.world) =
      ((Summary.summarize service silent rest text .null session.world).1,
        withJournal (as.flatMap Attempt.events)
          (Summary.summarize service silent rest text .null session.world).2) ∧
    (as.flatMap Attempt.events).map told =
      ["entered", "model request timed out after 30000ms", "failed", "released", "refused"] := by
  have hw : session.world.Delivers := fun f h => by cases h
  have hservices := (attempts_bracketed Number Unit).1 service silent rest session.world hw
    (fun _ _ _ => Moves.fail _) (fun _ => Moves.fail _) fun _ => Moves.pure _
  obtain ⟨as, has⟩ := hservices.1 text .null
  refine ⟨as, has, ?_⟩
  rw [← show _ = as.flatMap Attempt.events from congrArg (fun r => r.2.outside.1) has]
  decide +kernel

end Silent

end Journal

end ResilientCalls
