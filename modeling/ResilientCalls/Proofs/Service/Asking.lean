import ResilientCalls.Proofs.Breaker.Window
import ResilientCalls.Proofs.Service.Journal
import ResilientCalls.Proofs.Service.Motion

namespace ResilientCalls

open Effect World

variable {τ σ α : Type}

namespace Breaker

theorem State.probe_phase (s : State τ) (now : τ) : (s.probe now).1.phase ≠ .opened := by
  by_cases hp : s.phase = .opened
  · simp [probe_of_opened now hp]
  · rw [probe_of_ne now hp]
    exact hp

/-- Not a breaker that is switched on and open. -/
def Admitting (found : Option (Cell τ)) : Prop :=
  ∀ c, found = some c → c.config.isEnabled = true → c.state.phase ≠ .opened

theorem gives_enter [Clock τ] (id : Id) : Gives (fun _ w => Admitting (w.registry.cell? id))
    (enter id : Run τ σ Ticket) := by
  intro w t ht
  cases hc : w.registry.cell? id with
  | none =>
    rw [enter_of_none hc]
    simp [Admitting, hc]
  | some c =>
    have he : Entry id w c (enter id w) := entry hc
    generalize enter id w = r at he ht
    cases he with
    | unguarded hen =>
      intro c' hc' hen'
      obtain rfl : c = c' := Option.some.inj (hc.symm.trans hc')
      simp [hen] at hen'
    | refused _ _ _ _ _ => cases ht
    | unannounced _ _ _ _ _ => cases ht
    | admitted w' hen hv ho =>
      intro c' hc' _
      have hc₁ : w'.registry.cell? id =
          some { c with state := (c.state.probe w.now).1.take.1 } := by
        rw [ho.registry]
        exact Registry.cell?_setState_self hc _
      obtain rfl := Option.some.inj (hc₁.symm.trans hc')
      show (c.state.probe w.now).1.take.1.phase ≠ .opened
      rw [State.take_phase]
      exact c.state.probe_phase w.now

end Breaker

namespace Journal

/-- Worlds whose journal tells what a breaker was. -/
abbrev Watched (τ σ : Type) := Noted (Option (Breaker.Cell τ)) τ σ

/-- A question, with what the breaker is when it is asked. -/
def watching (id : Breaker.Id) (x : Run τ σ α) : Run τ (List (Option (Breaker.Cell τ)) × σ) α := do
  note (← Breaker.cell id)
  blind x

/-- The provider, with what a breaker is whenever it is asked. -/
def watched (id : Breaker.Id) (p : Provider τ σ) :
    Provider τ (List (Option (Breaker.Cell τ)) × σ) where
  name := p.name
  generate system user json := watching id (p.generate system user json)
  translate b := watching id (p.translate b)

theorem mirrors_watching (id : Breaker.Id) (x : Run τ σ α) :
    Mirrors Prod.snd (watching id x) x := fun _ => rfl

theorem mirror_watched (id : Breaker.Id) (p : Provider τ σ) : (watched id p).Mirror Prod.snd p where
  name := rfl
  generate _ _ _ := mirrors_watching _ _
  translate _ := mirrors_watching _ _

/-- A world and a later one whose journal goes on with admitting breakers. -/
def Asked (w w' : Watched τ σ) : Prop :=
  ∃ js, w'.outside.1 = w.outside.1 ++ js ∧ ∀ found ∈ js, Breaker.Admitting found

theorem asked_of_steady {w w' : Watched τ σ} (h : Steady w w') : Asked w w' :=
  ⟨[], by rw [h.outside, List.append_nil], by simp⟩

instance : Std.Refl (@Asked τ σ) := ⟨fun w => asked_of_steady (refl_of Steady w)⟩

instance : IsTrans (Watched τ σ) Asked := by
  refine ⟨fun w₁ w₂ w₃ h k => ?_⟩
  obtain ⟨js, hjs, hj⟩ := h
  obtain ⟨ks, hks, hk⟩ := k
  refine ⟨js ++ ks, by rw [hks, hjs, List.append_assoc], ?_⟩
  intro found hf
  rcases List.mem_append.1 hf with hf | hf
  · exact hj found hf
  · exact hk found hf

theorem asked_watching {id : Breaker.Id} {w : Watched τ σ}
    (h : Breaker.Admitting (w.registry.cell? id)) (x : Run τ σ α) :
    Asked w (watching id x w).2 := by
  refine ⟨[w.registry.cell? id], rfl, ?_⟩
  intro found hf
  rw [List.mem_singleton.1 hf]
  exact h

theorem moves_blind_asked (x : Run τ σ α) :
    Moves Asked (blind x : Run τ (List (Option (Breaker.Cell τ)) × σ) α) :=
  fun _ => ⟨[], (List.append_nil _).symm, by simp⟩

variable [Clock τ]

/-- An attempt whose provider is asked while its breaker admits. -/
theorem moves_call_asked (s : Service) {body : Run τ (List (Option (Breaker.Cell τ)) × σ) α}
    (hb : ∀ w, Breaker.Admitting (w.registry.cell? s.breaker) → Asked w (body w).2) :
    Moves Asked (s.attempt s.guard body) := by
  have hsteady : ∀ {β : Type} {x : Run τ (List (Option (Breaker.Cell τ)) × σ) β},
      Moves Steady x → Moves Asked x := fun h => h.mono fun _ _ => asked_of_steady
  apply Breaker.moves_call_of_gives (hsteady (Breaker.moves_enter _)) (Breaker.gives_enter _)
  · intro t w hw
    have ho : Observed w ((s.checkpoint "retry-attempt") w).2 := moves_inject _ _ w
    cases h : (s.checkpoint "retry-attempt") w with
    | mk r w₁ =>
      rw [h] at ho
      have hasked := asked_of_steady ho.steady
      cases r with
      | error e =>
        rw [bind_of_error h]
        exact hasked
      | ok u =>
        -- a checkpoint leaves the breakers as they are
        rw [bind_of_ok h]
        refine trans_of Asked hasked (hb w₁ ?_)
        rw [ho.registry]
        exact hw
  · exact hsteady (Breaker.moves_advance _ _)
  · exact hsteady (Breaker.moves_advance _ _)
  · exact fun t => hsteady (Breaker.moves_guard_release _ t)

theorem moves_check_asked (s : Service) :
    Moves Asked (s.guard : Breaker.Guard (Watched τ σ)).check :=
  (Breaker.moves_check s.breaker).mono fun _ _ h => asked_of_steady h.steady

omit [Clock τ] in
theorem run_of_asked {x : Run τ (List (Option (Breaker.Cell τ)) × σ) α} {y : Run τ σ α}
    (hm : Mirrors Prod.snd x y) (hx : Moves Asked x) (w : World τ σ) :
    ∃ js, x (withJournal [] w) = ((y w).1, withJournal js (y w).2) ∧
      ∀ found ∈ js, Breaker.Admitting found := by
  obtain ⟨js, hjs, hj⟩ := hx (withJournal [] w)
  exact ⟨js, journal_of_mirrors hm hjs, hj⟩

/-- A summary is made without asking the provider while the breaker is open. -/
theorem summarize_asked (s : Service) (p : Provider τ σ) (wait : Binary64 → Run τ σ Unit)
    (text : String) (settings : Json) (w : World τ σ) :
    ∃ js, Summary.summarize s (watched s.breaker p) (fun d => blind (wait d)) text settings
        (withJournal [] w) =
      ((Summary.summarize s p wait text settings w).1,
        withJournal js (Summary.summarize s p wait text settings w).2) ∧
      ∀ found ∈ js, Breaker.Admitting found := by
  apply run_of_asked
  · exact Summary.mirrors_summarizeUnder (Breaker.mirrors_guard _ s.breaker)
      (mirror_watched s.breaker p) (fun d => mirrors_blind (wait d)) s text settings
  · apply Summary.moves_summarizeUnder (fun _ _ h => asked_of_steady h.steady) (moves_check_asked s)
    · intro system text
      refine moves_call_asked s fun w hw => ?_
      refine Moves.bind_from (asked_watching hw _) fun answer => ?_
      extract_lets output
      split
      · exact Moves.fail _
      · exact Moves.pure _
    · exact fun d => moves_blind_asked (wait d)

/-- A batch is translated without asking the provider while the breaker is open. -/
theorem translateBatch_asked (s : Service) (p : Provider τ σ) (wait : Binary64 → Run τ σ Unit)
    (b : Localization.Batch) (w : World τ σ) :
    ∃ js, Localization.translateBatch s (watched s.breaker p) (fun d => blind (wait d)) b
        (withJournal [] w) =
      ((Localization.translateBatch s p wait b w).1,
        withJournal js (Localization.translateBatch s p wait b w).2) ∧
      ∀ found ∈ js, Breaker.Admitting found := by
  apply run_of_asked
  · exact Localization.mirrors_translateBatchUnder (Breaker.mirrors_guard _ s.breaker)
      (mirror_watched s.breaker p) (fun d => mirrors_blind (wait d)) s b
  · apply Localization.moves_translateBatchUnder (fun _ _ h => asked_of_steady h.steady)
      (moves_check_asked s)
    · exact moves_call_asked s fun w hw => asked_watching hw _
    · exact fun d => moves_blind_asked (wait d)

end Journal

open Journal in
/-- A breaker that is open has been so since a failure that opened it, and has kept the instant of
this throughout. Whatever it is used for next, it stays open since then, unless it is reset, or is
asked for admission while it is switched on and the time of its window has passed. Neither service
asks its provider while its breaker is open and switched on: with a journal of what the breaker is
at each question, a call does what it does without one. -/
theorem open_window_kept (σ : Type) :
    (∀ (w : World Number σ) (config : Breaker.Config) (us : List (Breaker.Use Number)),
      let h := (Breaker.Session.start w config).run us
      ∃ c, h.cell? = some c ∧ (c.state.phase = .opened →
        ∃ opened, (Breaker.Session.start w config).OpenSince us opened ∧
          c.state.openedAt = some opened ∧
          ∀ u, ∃ c', (h.perform u).cell? = some c' ∧
            ((c'.state.phase = .opened ∧ c'.state.openedAt = some opened) ∨
              (u = .reset ∧ c'.state.phase = .closed) ∨
              (u = .enter ∧ c'.state.phase = .halfOpen ∧ c.config.isEnabled = true ∧
                Clock.remainingMs c.config.recoveryMs opened h.world.now = .ok 0 ∧
                ∀ timeout since reading,
                  Clock.Exact c.config.recoveryMs opened h.world.now timeout since reading →
                  timeout ≤ (reading - since) * 1000)))) ∧
    ∀ (s : Service) (p : Provider Number σ) (wait : Binary64 → Run Number σ Unit)
      (w : World Number σ),
      (∀ text settings, ∃ js,
        Summary.summarize s (watched s.breaker p) (fun d => blind (wait d)) text settings
            (withJournal [] w) =
          ((Summary.summarize s p wait text settings w).1,
            withJournal js (Summary.summarize s p wait text settings w).2) ∧
        ∀ found ∈ js, Breaker.Admitting found) ∧
      ∀ b, ∃ js,
        Localization.translateBatch s (watched s.breaker p) (fun d => blind (wait d)) b
            (withJournal [] w) =
          ((Localization.translateBatch s p wait b w).1,
            withJournal js (Localization.translateBatch s p wait b w).2) ∧
        ∀ found ∈ js, Breaker.Admitting found := by
  refine ⟨fun w config us => ?_, fun s p wait w => ⟨?_, ?_⟩⟩
  · intro h
    obtain ⟨c, hc, hopen⟩ := Breaker.Session.run_openSince w config us
    refine ⟨c, hc, fun hp => ?_⟩
    obtain ⟨opened, hsince⟩ := hopen hp
    refine ⟨opened, hsince, (hsince.openedAt hc).2, fun u => ?_⟩
    obtain ⟨c', hc', hkept | hreset | ⟨hu, hp', hen, hr⟩⟩ := hsince.perform hc u
    · exact ⟨c', hc', Or.inl hkept⟩
    · exact ⟨c', hc', Or.inr (Or.inl hreset)⟩
    · refine ⟨c', hc', Or.inr (Or.inr ⟨hu, hp', hen, hr, ?_⟩)⟩
      intro timeout since reading hexact
      exact hexact.remainingMs_eq_zero_iff.1 hr
  · exact fun text settings => summarize_asked s p wait text settings w
  · exact fun b => translateBatch_asked s p wait b w

end ResilientCalls
