import ResilientCalls.Proofs.Service.Fallback
import ResilientCalls.Proofs.Tally

namespace ResilientCalls

open Effect World

variable {ε τ σ α β : Type}

namespace Journal

/-- What happens in the course of a call, and in which worlds. -/
inductive Moment (τ σ : Type) where
  /-- The breaker is asked to admit a call of the provider. -/
  | asked (w : World τ σ)
  | called (before after : World τ σ) (e : Ending)
  | waited (before after : World τ σ) (e : Ending)

def Moment.reply? : Moment τ σ → Option Ending
  | .called _ _ e => some e
  | .asked _ | .waited _ _ _ => none

/-- How the calls of the provider ended. -/
def replies (ms : List (Moment τ σ)) : List Ending := ms.filterMap Moment.reply?

@[simp]
theorem replies_append (ms ns : List (Moment τ σ)) :
    replies (ms ++ ns) = replies ms ++ replies ns :=
  List.filterMap_append

theorem replies_length_le {ms ns : List (Moment τ σ)} (h : ms <+: ns) :
    (replies ms).length ≤ (replies ns).length := (h.filterMap Moment.reply?).length_le

/-- A computation that does not know of the journal, with its end noted and where it began and
ended. -/
def around (moment : World τ σ → World τ σ → Ending → ε) (x : Run τ σ α) :
    Run τ (List ε × σ) α := do
  let before ← Effect.get
  let r ← Effect.ending (blind x)
  let after ← Effect.get
  note (moment (without before) (without after) (.of r))
  Effect.conclude r

theorem around_apply (moment : World τ σ → World τ σ → Ending → ε) (x : Run τ σ α)
    (w : Noted ε τ σ) :
    around moment x w = ((x (without w)).1, withJournal
      (w.outside.1 ++ [moment (without w) (x (without w)).2 (.of (x (without w)).1)])
      (x (without w)).2) := by
  rw [around, get_bind_apply, ending_bind_apply, get_bind_apply]
  show (Effect.conclude (x (without w)).1) _ = _
  rw [conclude_apply]
  rfl

theorem mirrors_around (moment : World τ σ → World τ σ → Ending → ε) (x : Run τ σ α) :
    Mirrors Prod.snd (around moment x) x := by
  intro w
  rw [around_apply]
  rfl

namespace Moments

/-- A provider whose calls are noted. -/
def provider (p : Provider τ σ) : Provider τ (List (Moment τ σ) × σ) where
  name := p.name
  generate system user json := around .called (p.generate system user json)
  translate b := around .called (p.translate b)

def waiting (wait : Binary64 → Run τ σ Unit) (d : Binary64) : Run τ (List (Moment τ σ) × σ) Unit :=
  around .waited (wait d)

/-- A guard of which it is noted where it is asked for admission. -/
def guard (g : Breaker.Guard (Noted (Moment τ σ) τ σ)) :
    Breaker.Guard (Noted (Moment τ σ) τ σ) where
  check := g.check
  enter := do
    let w ← Effect.get
    note (.asked (without w))
    g.enter
  succeed := g.succeed
  fail := g.fail
  release := g.release

theorem mirror_provider (p : Provider τ σ) : (provider p).Mirror Prod.snd p where
  name := rfl
  generate _ _ _ := mirrors_around _ _
  translate _ := mirrors_around _ _

theorem mirrors_waiting (wait : Binary64 → Run τ σ Unit) (d : Binary64) :
    Mirrors Prod.snd (waiting wait d) (wait d) := mirrors_around _ _

theorem follow_guard {g : Breaker.Guard (Noted (Moment τ σ) τ σ)} {h : Breaker.Guard (World τ σ)}
    (hg : g.Follow (World.mapOutside Prod.snd) h) :
    (guard g).Follow (World.mapOutside Prod.snd) h where
  check := hg.check
  enter w := hg.enter { w with outside := (w.outside.1 ++ [.asked (without w)], w.outside.2) }
  succeed := hg.succeed
  fail := hg.fail
  release t := hg.release t

/-- The world in which it has been noted that the breaker is asked. -/
def asking (w : Noted (Moment τ σ) τ σ) : Noted (Moment τ σ) τ σ :=
  { w with outside := (w.outside.1 ++ [.asked (without w)], w.outside.2) }

theorem attempt_apply (s : Service) (g : Breaker.Guard (Noted (Moment τ σ) τ σ))
    (body : Run τ (List (Moment τ σ) × σ) α) (w : Noted (Moment τ σ) τ σ) :
    s.attempt (guard g) body w = s.attempt g body (asking w) := rfl

end Moments

/-- A world and a later one whose journal goes on from the first one's. -/
def Extends (w w' : Noted ε τ σ) : Prop := w.outside.1 <+: w'.outside.1

instance : Std.Refl (@Extends ε τ σ) := ⟨fun _ => List.prefix_rfl⟩

instance : IsTrans (Noted ε τ σ) Extends := ⟨fun _ _ _ => List.IsPrefix.trans⟩

theorem extends_of_steady {w w' : Noted ε τ σ} (h : Steady w w') : Extends w w' :=
  ⟨[], (List.append_nil _).trans (congrArg Prod.fst h.outside.symm)⟩

theorem extends_around (moment : World τ σ → World τ σ → Ending → ε) (x : Run τ σ α) :
    Moves Extends (around moment x) := by
  intro w
  rw [around_apply]
  exact List.prefix_append _ _

/-- What calls the provider once, and fails if the provider does. -/
def Calling (body : Run τ (List (Moment τ σ) × σ) α) : Prop :=
  ∀ w, ∃ after e,
    (body w).2 = withJournal (w.outside.1 ++ [.called (without w) after e]) after ∧
    ∀ f, e = .failed f → (body w).1 = .error (.failed f)

namespace Calling

theorem around (x : Run τ σ α) : Calling (Journal.around Moment.called x) := by
  intro w
  refine ⟨(x (without w)).2, .of (x (without w)).1, ?_, fun f hf => ?_⟩
  · rw [around_apply]
  · rw [around_apply]
    exact eq_of_ending hf

/-- What is made of an answer does not matter when there is none. -/
theorem bind {x : Run τ (List (Moment τ σ) × σ) β} (hx : Calling x)
    {g : β → Run τ (List (Moment τ σ) × σ) α} (hg : ∀ b, Moves Eq (g b)) : Calling (x >>= g) := by
  intro w
  obtain ⟨after, e, hafter, hfail⟩ := hx w
  refine ⟨after, e, ?_, fun f hf => ?_⟩
  · rw [← Moves.after_bind hg w, hafter]
  · rw [bind_of_error (Prod.ext (hfail f hf) rfl)]

theorem moves {body : Run τ (List (Moment τ σ) × σ) α} (h : Calling body) :
    Moves Extends body := by
  intro w
  obtain ⟨after, e, hafter, -⟩ := h w
  rw [hafter]
  exact List.prefix_append _ _

end Calling

theorem calling_ask (p : Provider τ σ) (system text : String) :
    Calling (Summary.ask (Moments.provider p) system text) := by
  refine (Calling.around (p.generate system (Summary.userPrompt text) false)).bind fun answer => ?_
  extract_lets output
  split
  · exact Moves.fail _
  · exact Moves.pure _

/-- An attempt moves as its body does, along all that steps of breakers and notes move along. -/
theorem moves_attempt [Clock τ] {R : Noted (Moment τ σ) τ σ → Noted (Moment τ σ) τ σ → Prop}
    [Std.Refl R] [IsTrans _ R] (hR : ∀ w w', Steady w w' → R w w')
    (hasked : ∀ w, R w (Moments.asking w)) (s : Service)
    {body : Run τ (List (Moment τ σ) × σ) α} (hb : Moves R body) :
    Moves R (s.attempt (Moments.guard s.guard) body) := by
  intro w
  rw [Moments.attempt_apply]
  exact trans_of R (hasked w) (s.moves_attempt_guard hR hb (Moments.asking w))

theorem extends_attempt [Clock τ] (s : Service) {body : Run τ (List (Moment τ σ) × σ) α}
    (hb : Moves Extends body) : Moves Extends (s.attempt (Moments.guard s.guard) body) :=
  moves_attempt (fun _ _ => extends_of_steady) (fun _ => List.prefix_append _ _) s hb

/-- What is noted to have been done has been done so. -/
inductive Moment.Genuine (p : Provider τ σ) (wait : Binary64 → Run τ σ Unit) :
    Moment τ σ → Prop where
  | asked (w : World τ σ) : Genuine p wait (.asked w)
  | answered (system user : String) (json : Bool) (w : World τ σ) : Genuine p wait
      (.called w (p.generate system user json w).2 (.of (p.generate system user json w).1))
  | translated (b : Localization.Batch) (w : World τ σ) :
      Genuine p wait (.called w (p.translate b w).2 (.of (p.translate b w).1))
  | waited (d : Binary64) (w : World τ σ) :
      Genuine p wait (.waited w (wait d w).2 (.of (wait d w).1))

/-- A world whose journal is genuine. -/
def Truthful (p : Provider τ σ) (wait : Binary64 → Run τ σ Unit) (w : Noted (Moment τ σ) τ σ) :
    Prop := ∀ m ∈ w.outside.1, m.Genuine p wait

section

variable {p : Provider τ σ} {wait : Binary64 → Run τ σ Unit}

theorem truthful_of_steady {w w' : Noted (Moment τ σ) τ σ} (h : Steady w w') :
    Keeping (Truthful p wait) w w' := by
  intro hw
  rw [Truthful, h.outside]
  exact hw

theorem truthful_around {moment : World τ σ → World τ σ → Ending → Moment τ σ} {x : Run τ σ α}
    (h : ∀ w, (moment w (x w).2 (.of (x w).1)).Genuine p wait) :
    Moves (Keeping (Truthful p wait)) (around moment x) := by
  intro w hw
  rw [around_apply]
  intro m hm
  rcases List.mem_append.1 hm with hm | hm
  · exact hw m hm
  · rw [List.mem_singleton.1 hm]
    exact h (without w)

variable [Clock τ] {s : Service}

theorem truthful_attempt {body : Run τ (List (Moment τ σ) × σ) α}
    (hb : Moves (Keeping (Truthful p wait)) body) :
    Moves (Keeping (Truthful p wait)) (s.attempt (Moments.guard s.guard) body) := by
  refine moves_attempt (fun _ _ => truthful_of_steady) (fun w hw m hm => ?_) s hb
  rcases List.mem_append.1 hm with hm | hm
  · exact hw m hm
  · rw [List.mem_singleton.1 hm]
    exact .asked _

theorem truthful_summarizeUnder (text : String) (settings : Json) :
    Moves (Keeping (Truthful p wait)) (Summary.summarizeUnder s (Moments.guard s.guard)
      (Moments.provider p) (Moments.waiting wait) text settings) := by
  have hsteady : ∀ w w', Observed w w' → Keeping (Truthful p wait) w w' :=
    fun _ _ h => truthful_of_steady h.steady
  refine Summary.moves_summarizeUnder hsteady ((Breaker.moves_check s.breaker).mono hsteady) s
    (fun system text => truthful_attempt (Summary.moves_ask (fun system user json => ?_) _ _))
    (fun d => ?_) text settings
  · exact truthful_around fun w => .answered system user json w
  · exact truthful_around fun w => .waited d w

theorem truthful_translateBatchUnder (b : Localization.Batch) :
    Moves (Keeping (Truthful p wait)) (Localization.translateBatchUnder s (Moments.guard s.guard)
      (Moments.provider p) (Moments.waiting wait) b) := by
  have hsteady : ∀ w w', Observed w w' → Keeping (Truthful p wait) w w' :=
    fun _ _ h => truthful_of_steady h.steady
  refine Localization.moves_translateBatchUnder hsteady
    ((Breaker.moves_check s.breaker).mono hsteady) s b (truthful_attempt ?_) (fun d => ?_)
  · exact truthful_around fun w => .translated b w
  · exact truthful_around fun w => .waited d w

omit [Clock τ] in
/-- A call that is noted does what it does without a journal, and its journal is genuine. -/
theorem exists_genuine {x : Run τ (List (Moment τ σ) × σ) α} {y : Run τ σ α}
    (hm : Mirrors Prod.snd x y) (hx : Moves (Keeping (Truthful p wait)) x) (w : World τ σ) :
    ∃ ms, (∀ m ∈ ms, m.Genuine p wait) ∧
      x (withJournal [] w) = ((y w).1, withJournal ms (y w).2) := by
  refine ⟨_, hx (withJournal [] w) ?_, journal_of_mirrors hm rfl⟩
  intro m hm
  cases hm

end

theorem gains_without {k : Option Sink} {x : Seen} {n : Nat} {w w' : Noted ε τ σ} :
    Gains k x n (without w) (without w') ↔ Gains k x n w w' := by
  cases x with
  | metric name => exact Iff.rfl
  | record event => exact Iff.rfl

end Journal

end ResilientCalls
