import ResilientCalls.Proofs.Abreast

namespace ResilientCalls

namespace Effect

variable {s t α β : Type} {m : s → t}

/-- What `y` does to the image of a state is the image of what `x` does to the state. -/
def Follows (m : s → t) (x : Effect s α) (y : Effect t α) : Prop :=
  ∀ w, y (m w) = ((x w).1, m (x w).2)

theorem follows_iff_abreast {x : Effect s α} {y : Effect t α} :
    Follows m x y ↔ Abreast (fun w v => v = m w) x y fun w v => v = m w := by
  constructor
  · rintro h w v rfl
    rw [h w]
    exact ⟨rfl, rfl⟩
  · intro h w
    obtain ⟨he, hs⟩ := h w (m w) rfl
    exact Prod.ext he.symm hs

namespace Follows

theorem pure (a : α) : Follows m (Pure.pure a) (Pure.pure a) := fun _ => rfl

theorem stop (e : Stop) : Follows m (Effect.stop e : Effect s α) (Effect.stop e) := fun _ => rfl

theorem fail (f : Failure) : Follows m (Effect.fail f : Effect s α) (Effect.fail f) := stop _

theorem conclude (r : Except Stop α) :
    Follows m (Effect.conclude r : Effect s α) (Effect.conclude r) := by
  cases r with
  | ok a => exact pure a
  | error e => exact stop e

theorem ofExcept (r : Except Failure α) :
    Follows m (Effect.ofExcept r : Effect s α) (Effect.ofExcept r) := by
  cases r with
  | ok a => exact pure a
  | error f => exact fail f

theorem ofForeign (r : Except Foreign α) :
    Follows m (Effect.ofForeign r : Effect s α) (Effect.ofForeign r) := by
  cases r with
  | ok a => exact pure a
  | error f => exact fail _

theorem modify {f : s → s} {g : t → t} (h : ∀ w, g (m w) = m (f w)) :
    Follows m (Effect.modify f) (Effect.modify g) := by
  intro w
  rw [modify_apply, modify_apply, h]

theorem get_bind {f : s → Effect s α} {g : t → Effect t α} (h : ∀ w, Follows m (f w) (g (m w))) :
    Follows m (Effect.get >>= f) (Effect.get >>= g) := by
  intro w
  rw [get_bind_apply, get_bind_apply]
  exact h w w

theorem ending {x : Effect s α} {y : Effect t α} (h : Follows m x y) :
    Follows m (Effect.ending x) (Effect.ending y) := by
  intro w
  rw [ending_apply, ending_apply, h w]

theorem bind {x : Effect s α} {y : Effect t α} {f : α → Effect s β} {g : α → Effect t β}
    (hx : Follows m x y) (hf : ∀ a, Follows m (f a) (g a)) : Follows m (x >>= f) (y >>= g) := by
  intro w
  have hy := hx w
  cases h : x w with
  | mk r w' =>
    rw [h] at hy
    cases r with
    | ok a =>
      rw [bind_of_ok h, bind_of_ok hy]
      exact hf a w'
    | error e => rw [bind_of_error h, bind_of_error hy]

theorem thereafter {x : Effect s α} {y : Effect t α} {l : Effect s Unit} {k : Effect t Unit}
    (hx : Follows m x y) (hl : Follows m l k) :
    Follows m (Effect.thereafter x l) (Effect.thereafter y k) :=
  bind (ending hx) fun r => bind hl fun _ => conclude r

end Follows

end Effect

open Effect

section Loop

variable {s t α : Type} {m : s → t}

/-- What a retried action depends on follows. -/
structure Retry.Hooks.Follow (m : s → t) (h : Retry.Hooks s) (k : Retry.Hooks t) : Prop where
  shouldRetry : ∀ f, Follows m (h.shouldRetry f) (k.shouldRetry f)
  onRetry : ∀ f made, Follows m (h.onRetry f made) (k.onRetry f made)
  wait : ∀ d, Follows m (h.wait d) (k.wait d)
  log : ∀ r, Follows m (h.log r) (k.log r)

theorem Retry.follows_run (p : Retry.Policy) {h : Retry.Hooks s} {k : Retry.Hooks t}
    (hk : h.Follow m k) {x : Effect s α} {y : Effect t α} (hx : Follows m x y) :
    Follows m (Retry.run p h x) (Retry.run p k y) := by
  rw [follows_iff_abreast]
  refine Retry.abreast_run (R := fun _ w v => v = m w) p le_rfl (fun _ => le_rfl) (fun _ => ?_)
    fun _ => follows_iff_abreast.1 hx
  exact ⟨fun f => follows_iff_abreast.1 (hk.shouldRetry f),
    fun f made => follows_iff_abreast.1 (hk.onRetry f made),
    fun d => follows_iff_abreast.1 (hk.wait d), fun r => follows_iff_abreast.1 (hk.log r)⟩

namespace Breaker.Guard

/-- What calls ask of a breaker follows. -/
structure Follow (m : s → t) (g : Guard s) (h : Guard t) : Prop where
  check : Follows m g.check h.check
  enter : Follows m g.enter h.enter
  succeed : Follows m g.succeed h.succeed
  fail : Follows m g.fail h.fail
  release : ∀ ticket, Follows m (g.release ticket) (h.release ticket)

theorem follows_call {g : Guard s} {h : Guard t} (hg : g.Follow m h) {x : Effect s α}
    {y : Effect t α} (hx : Follows m x y) : Follows m (g.call x) (h.call y) := by
  refine Follows.bind hg.enter fun ticket => Follows.thereafter ?_ (hg.release ticket)
  refine Follows.bind (Follows.ending ?_) fun r => ?_
  · exact Follows.bind hx fun a => Follows.bind hg.succeed fun _ => Follows.pure a
  · rcases r with (f | _) | a
    · exact Follows.bind hg.fail fun _ => Follows.conclude _
    · exact Follows.conclude _
    · exact Follows.conclude _

end Breaker.Guard

end Loop

variable {τ σ ρ α : Type}

/-- The world with another world outside. -/
def World.mapOutside (m : σ → ρ) (w : World τ σ) : World τ ρ where
  now := w.now
  registry := w.registry
  ledgers := w.ledgers
  sharedSink := w.sharedSink
  log := w.log
  published := w.published
  delivery := w.delivery
  processFlags := w.processFlags
  environment := w.environment
  outside := m w.outside

/-- To follow in another world outside. -/
abbrev Mirrors (m : σ → ρ) (x : Run τ σ α) (y : Run τ ρ α) : Prop :=
  Follows (World.mapOutside m) x y

variable (m : σ → ρ)

theorem World.spending_mapOutside :
    World.Spending fun (_ : Nat) (w : World τ σ) v => v = w.mapOutside m where
  succ_le _ := le_rfl
  unnoticed _ := by
    constructor <;> rintro w _ rfl
    case setLedgers | setShared | addLog | addPublished => exact fun _ => rfl
    all_goals rfl

theorem mirrors_logged (r : LogRecord) :
    Mirrors m (Run.logged r : Run τ σ Unit) (Run.logged r) :=
  follows_iff_abreast.2 (abreast_logged ((World.spending_mapOutside m).unnoticed 0) r)

theorem Sink.mirrors_count (s : Option Sink) (name : String) (labels : List (String × Json)) :
    Mirrors m (count s name labels : Run τ σ Unit) (count s name labels) :=
  follows_iff_abreast.2 (abreast_count ((World.spending_mapOutside m).unnoticed 0) s name labels)

theorem mirrors_inject (h : Fault.Harness) (identifier : String) :
    Mirrors m (h.inject identifier : Run τ σ Unit) (h.inject identifier) :=
  follows_iff_abreast.2 (abreast_inject ((World.spending_mapOutside m).unnoticed 0) h identifier)

namespace Breaker

theorem mirrors_announce (c : Cell τ) (n : Notice) :
    Mirrors m (announce c n : Run τ σ Unit) (announce c n) := by
  cases n with
  | moved before after =>
    exact Follows.bind (Sink.mirrors_count m _ _ _) fun _ => mirrors_logged m _
  | blocked phase ms =>
    exact Follows.bind (Sink.mirrors_count m _ _ _) fun _ => mirrors_logged m _
  | reset => exact mirrors_logged m _

theorem mirrors_announceAll (c : Cell τ) (ns : List Notice) :
    Mirrors m (announceAll c ns : Run τ σ Unit) (announceAll c ns) := by
  induction ns with
  | nil => exact Follows.pure _
  | cons n rest ih => exact Follows.bind (mirrors_announce m c n) fun _ => ih

theorem mirrors_cell (id : Id) : Mirrors m (cell id : Run τ σ (Option (Cell τ))) (cell id) :=
  fun _ => rfl

theorem mirrors_advance (id : Id) (step : State τ → Config → τ → State τ × List Notice) :
    Mirrors m (advance id step : Run τ σ Unit) (advance id step) := by
  refine Follows.get_bind fun w => ?_
  have hr : (w.mapOutside m).registry = w.registry := rfl
  have hn : (w.mapOutside m).now = w.now := rfl
  rw [hr, hn]
  cases w.registry.cell? id with
  | none => exact Follows.pure _
  | some c => exact Follows.bind (Follows.modify fun _ => rfl) fun _ => mirrors_announceAll m c _

theorem mirrors_take (id : Id) : Mirrors m (take id : Run τ σ Ticket) (take id) := by
  refine Follows.bind (mirrors_cell m id) fun found => ?_
  cases found with
  | none => exact Follows.pure _
  | some c => exact Follows.bind (Follows.modify fun _ => rfl) fun _ => Follows.pure _

theorem mirrors_release (id : Id) (ticket : Ticket) :
    Mirrors m (release id ticket : Run τ σ Ticket) (release id ticket) := by
  refine Follows.bind (mirrors_cell m id) fun found => ?_
  cases found with
  | none => exact Follows.pure _
  | some c => exact Follows.bind (Follows.modify fun _ => rfl) fun _ => Follows.pure _

variable [Clock τ]

theorem mirrors_check (id : Id) : Mirrors m (check id : Run τ σ Unit) (check id) := by
  refine Follows.get_bind fun w => ?_
  have hr : (w.mapOutside m).registry = w.registry := rfl
  have hn : (w.mapOutside m).now = w.now := rfl
  rw [hr, hn]
  cases w.registry.cell? id with
  | none => exact Follows.pure _
  | some c =>
    refine Follows.bind (Follows.ofExcept _) fun verdict => ?_
    cases verdict with
    | granted => exact Follows.pure _
    | refused ms => exact Follows.bind (mirrors_announce m c _) fun _ => Follows.fail _

theorem mirrors_enter (id : Id) : Mirrors m (enter id : Run τ σ Ticket) (enter id) := by
  refine Follows.bind (mirrors_cell m id) fun found => ?_
  cases found with
  | none => exact Follows.pure _
  | some c =>
    dsimp only
    split
    · exact Follows.pure _
    · refine Follows.bind (mirrors_check m id) fun _ => ?_
      exact Follows.bind (mirrors_advance m id _) fun _ => mirrors_take m id

theorem mirrors_guard (id : Id) :
    (guard id : Guard (World τ σ)).Follow (World.mapOutside m) (guard id) where
  check := mirrors_check m id
  enter := mirrors_enter m id
  succeed := mirrors_advance m id State.recordSuccess
  fail := mirrors_advance m id State.recordFailure
  release ticket := Follows.bind (mirrors_release m id ticket) fun _ => Follows.pure _

end Breaker

variable {m} {g : Breaker.Guard (World τ σ)} {h : Breaker.Guard (World τ ρ)}
  {p : Provider τ σ} {q : Provider τ ρ} {wait : Binary64 → Run τ σ Unit}
  {rest : Binary64 → Run τ ρ Unit}

/-- Providers of one name whose answers mirror each other. -/
structure Provider.Mirror (m : σ → ρ) (p : Provider τ σ) (q : Provider τ ρ) : Prop where
  name : q.name = p.name
  generate : ∀ system user json,
    Mirrors m (p.generate system user json) (q.generate system user json)
  translate : ∀ b, Mirrors m (p.translate b) (q.translate b)

theorem Provider.mirrors_readMap [Json.Depth] (answer : CodePoints) :
    Mirrors m (readMap answer : Run τ σ StringMap) (readMap answer) := by
  unfold readMap
  split
  · exact Follows.pure _
  · exact Follows.bind (mirrors_logged m _) fun _ => Follows.fail _

theorem Provider.mirror_ofGenerate [Json.Depth] (name : String) (model : Json)
    {generate : String → String → Bool → Run τ σ CodePoints}
    {respond : String → String → Bool → Run τ ρ CodePoints}
    (h : ∀ system user json, Mirrors m (generate system user json) (respond system user json)) :
    (ofGenerate name model generate).Mirror m (ofGenerate name model respond) where
  name := rfl
  generate := h
  translate b := by
    refine Follows.bind (h _ _ _) fun answer => Follows.bind (mirrors_readMap answer) fun map => ?_
    split
    · exact Follows.pure _
    · exact Follows.bind (mirrors_logged m _) fun _ => Follows.pure _

theorem Service.abreast_call (hg : g.Follow (World.mapOutside m) h) (s : Service) {x : Run τ σ α}
    {y : Run τ ρ α} (hx : Mirrors m x y) :
    Abreast (fun w v => v = w.mapOutside m) (s.attempt g x) (s.attempt h y)
      fun w v => v = w.mapOutside m :=
  follows_iff_abreast.1
    (Breaker.Guard.follows_call hg (Follows.bind (mirrors_inject m _ _) fun _ => hx))

namespace Summary

theorem mirrors_ask (hp : p.Mirror m q) (system text : String) :
    Mirrors m (ask p system text) (ask q system text) :=
  follows_iff_abreast.2
    (abreast_ask hp.name (fun _ _ _ => follows_iff_abreast.1 (hp.generate _ _ _)) system text)

theorem mirrors_attempts (hg : g.Follow (World.mapOutside m) h) (hp : p.Mirror m q)
    (hw : ∀ d, Mirrors m (wait d) (rest d)) (s : Service) (provider : String) (settings : Settings)
    (system text : String) :
    Mirrors m
      (s.attempts g wait Failure.isTransient (onRetry s provider settings) (ask p system text))
      (s.attempts h rest Failure.isTransient (onRetry s provider settings)
        (ask q system text)) :=
  follows_iff_abreast.2 <| abreast_attempts (World.spending_mapOutside m) s le_rfl
    (follows_iff_abreast.1 hg.check) (fun _ d => follows_iff_abreast.1 (hw d))
    (fun _ => Service.abreast_call hg s (mirrors_ask hp system text)) provider settings

/-- Summaries made in two worlds mirror each other if the guards, providers and waits do. -/
theorem mirrors_summarizeUnder (hg : g.Follow (World.mapOutside m) h) (hp : p.Mirror m q)
    (hw : ∀ d, Mirrors m (wait d) (rest d)) (s : Service) (text : String) (settings : Json) :
    Mirrors m (summarizeUnder s g p wait text settings)
      (summarizeUnder s h q rest text settings) :=
  follows_iff_abreast.2 <| abreast_summarizeUnder (World.spending_mapOutside m) hp.name s le_rfl
    (follows_iff_abreast.1 hg.check) (fun _ d => follows_iff_abreast.1 (hw d))
    (fun _ _ _ => Service.abreast_call hg s (mirrors_ask hp _ _)) text settings

end Summary

namespace Localization

theorem mirrors_attempts (hg : g.Follow (World.mapOutside m) h) (hp : p.Mirror m q)
    (hw : ∀ d, Mirrors m (wait d) (rest d)) (s : Service) (provider : String) (b : Batch) :
    Mirrors m
      (s.attempts g wait (fun f => .ok f.isRetriable) (onRetry s provider b) (p.translate b))
      (s.attempts h rest (fun f => .ok f.isRetriable) (onRetry s provider b) (q.translate b)) :=
  follows_iff_abreast.2 <| abreast_attempts (World.spending_mapOutside m) s le_rfl
    (follows_iff_abreast.1 hg.check) (fun _ d => follows_iff_abreast.1 (hw d))
    (fun _ => Service.abreast_call hg s (hp.translate b)) provider

/-- Batches translated in two worlds mirror each other if the guards, providers and waits do. -/
theorem mirrors_translateBatchUnder (hg : g.Follow (World.mapOutside m) h) (hp : p.Mirror m q)
    (hw : ∀ d, Mirrors m (wait d) (rest d)) (s : Service) (b : Batch) :
    Mirrors m (translateBatchUnder s g p wait b) (translateBatchUnder s h q rest b) :=
  follows_iff_abreast.2 <| abreast_translateBatchUnder (World.spending_mapOutside m) hp.name s
    le_rfl (follows_iff_abreast.1 hg.check) (fun _ d => follows_iff_abreast.1 (hw d)) b
    fun _ => Service.abreast_call hg s (hp.translate b)

end Localization

end ResilientCalls
