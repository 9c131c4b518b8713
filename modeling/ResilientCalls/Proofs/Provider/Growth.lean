import ResilientCalls.Provider
import ResilientCalls.Proofs.Sightings

namespace ResilientCalls

open Effect World

variable {τ σ : Type} {s : Option Sink}

namespace World

variable {w w' : World τ σ}

/-- The sinks in use stay as they are, and none shows less than before. -/
theorem grows_of_prefix (hd : w'.delivery = w.delivery) (hs : w'.sharedSink = w.sharedSink)
    (hl : w'.ledgers.length = w.ledgers.length)
    (h : ∀ k, w.sightings .count k <+: w'.sightings .count k) : Grows s w w' := by
  intro hw
  refine ⟨⟨fun f => ?_, fun k hk => ?_⟩, fun k hk => hs.trans hk, h⟩
  · rw [hd]
    exact hw.delivers f
  · rw [hs] at hk
    rw [hl]
    exact hw.hasSinks k hk

end World

theorem grows_logged {r : LogRecord} (hr : r.event ≠ "metric") :
    Moves (Grows (τ := τ) (σ := σ) s) (Run.logged r) := by
  refine Moves.modify fun w => grows_of_prefix rfl rfl rfl fun k => ?_
  simp only [sightings_addLog (x := .count) hr, List.prefix_refl]

namespace Sink

theorem grows_publish (n : Json) (d : Datum) :
    Moves (Grows (τ := τ) (σ := σ) s) (publish n d) := by
  refine Moves.bind (Moves.modify fun w => grows_of_prefix rfl rfl rfl fun k => ?_) fun _ => ?_
  · unfold World.sightings
    cases k.backend with
    | memory => exact List.prefix_refl _
    | log => exact List.prefix_refl _
    | cloudWatch b => simp
  · refine Moves.bind Moves.get fun w => ?_
    split
    · exact Moves.pure _
    · exact grows_logged (by simp)
    · exact Moves.fail _

theorem metrics_addRequest (k l : Sink) (r : RequestMetric) (w : World τ σ) :
    ((w.modifyLedger k (·.addRequest r)).ledger l).metrics = (w.ledger l).metrics := by
  unfold ledger modifyLedger
  rw [List.getElem?_modify]
  split
  · cases w.ledgers[l.number]? <;> rfl
  · simp

/-- A measurement takes nothing back, at whichever sink. -/
theorem grows_recordRequest (k : Sink) (r : RequestMetric) :
    Moves (Grows (τ := τ) (σ := σ) s) (k.recordRequest r) := by
  unfold recordRequest
  cases k.backend with
  | memory =>
    refine Moves.modify fun w => grows_of_prefix rfl rfl (by simp [modifyLedger]) fun l => ?_
    unfold World.sightings
    cases l.backend with
    | log => exact List.prefix_refl _
    | cloudWatch n => exact List.prefix_refl _
    | memory =>
      dsimp only [Kind.kept]
      simp only [metrics_addRequest, List.prefix_refl]
  | log => exact grows_logged (by simp [RequestMetric.logRecord])
  | cloudWatch n => exact grows_publish n _

theorem grows_orShared {given : Option Sink} (h : given = none ∨ given = s) :
    Moves (Grows (τ := τ) (σ := σ) s) (orShared given) := by
  intro w hw
  obtain ⟨k, w', hsink, hready⟩ := orShared_readies h hw.hasSinks
  rw [hsink]
  refine ⟨⟨hready.observed.steady.delivers hw.delivers, hready.hasSinks⟩, hready.retains, ?_⟩
  intro l
  simp only [hready.sightings, List.prefix_refl]

end Sink

namespace Provider

/-- Sending takes nothing back, nor does reading the clock. -/
structure Transport.Grow (s : Option Sink) (t : Transport τ σ) : Prop where
  send : ∀ r, Moves (Grows s) (t.send r)
  stopwatch : Moves (Grows s) t.stopwatch

variable {t : Transport τ σ} {given : Option Sink}

theorem Adapter.grows_interpret [Json.Depth] (a : Adapter) (o : Http.Outcome) :
    Moves (Grows (τ := τ) (σ := σ) s) (a.interpret o) := by
  cases o with
  | timedOut => exact Moves.fail _
  | broken reason => exact Moves.fail _
  | response status content =>
    unfold Adapter.interpret
    dsimp only
    split
    · exact Moves.bind (grows_logged (by simp [Adapter.logRecord])) fun _ => Moves.fail _
    · split
      · exact Moves.bind (grows_logged (by simp [Adapter.logRecord])) fun _ => Moves.pure _
      · exact Moves.fail _
      · exact Moves.fail _
      · exact Moves.fail _

theorem Adapter.grows_post [Json.Depth] (a : Adapter) (ht : t.Grow s) (h : given = none ∨ given = s)
    (url body headers params : Json) :
    Moves (Grows s) (a.post t given url body headers params) := by
  refine Moves.bind (Moves.ofForeign _) fun hs => ?_
  refine Moves.bind (Moves.ofForeign _) fun timeout => ?_
  refine Moves.bind ht.stopwatch fun started => ?_
  refine Moves.bind (Moves.ending ?_) fun e => Moves.thereafter ?_ ?_
  · refine Moves.bind (Moves.ofForeign _) fun r => ?_
    exact Moves.bind (ht.send r) fun o => Moves.ofForeign _
  · exact Moves.bind (Moves.conclude e) fun o => grows_interpret a o
  · refine Moves.bind ht.stopwatch fun ended => ?_
    exact Moves.bind (Sink.grows_orShared h) fun k => Sink.grows_recordRequest k _

theorem Adapter.grows_generate [Json.Depth] (a : Adapter) (ht : t.Grow s)
    (h : given = none ∨ given = s) (system user : Json) (json : Bool) :
    Moves (Grows s) (a.generate t given system user json) := by
  refine Moves.bind (a.grows_post ht h _ _ _ _) fun body => ?_
  refine Moves.bind (Moves.ofForeign _) fun text => ?_
  split
  · exact Moves.fail _
  · exact Moves.pure _

theorem grows_readMap [Json.Depth] (answer : CodePoints) :
    Moves (Grows (τ := τ) (σ := σ) s) (readMap answer) := by
  unfold readMap
  split
  · exact Moves.pure _
  · exact Moves.bind (grows_logged (by simp)) fun _ => Moves.fail _

/-- A batch that is translated by a prompt takes back no more than the answer to the prompt. -/
theorem grows_translateByPrompt [Json.Depth] (name : String) (model : Json)
    {generate : String → String → Bool → Run τ σ CodePoints}
    (h : ∀ system user json, Moves (Grows s) (generate system user json))
    (b : Localization.Batch) : Moves (Grows s) (translateByPrompt name model generate b) := by
  refine Moves.bind (h _ _ _) fun answer => Moves.bind (grows_readMap answer) fun m => ?_
  split
  · exact Moves.pure _
  · exact Moves.bind (grows_logged (by simp)) fun _ => Moves.pure _

/-- The provider that an adapter reaches takes nothing back, if its transport does not. -/
theorem grows_ofAdapter [Json.Depth] (a : Adapter) (ht : t.Grow s) (h : given = none ∨ given = s) :
    (∀ system user json, Moves (Grows s) ((ofAdapter a t given).generate system user json)) ∧
      ∀ b, Moves (Grows s) ((ofAdapter a t given).translate b) := by
  have hgenerate : ∀ system user json,
      Moves (Grows s) (a.generate t given (.text system) (.text user) json) :=
    fun _ _ _ => a.grows_generate ht h _ _ _
  exact ⟨hgenerate, grows_translateByPrompt a.name a.model hgenerate⟩

end Provider

end ResilientCalls
