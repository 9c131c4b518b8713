import ResilientCalls.Breaker.Guard
import ResilientCalls.Fault
import ResilientCalls.Proofs.Effect

namespace ResilientCalls

variable {τ σ α : Type}

namespace World

/-- A world and a later one that differ in what was observed only. -/
structure Observed (w w' : World τ σ) : Prop where
  now : w'.now = w.now
  registry : w'.registry = w.registry
  delivery : w'.delivery = w.delivery
  processFlags : w'.processFlags = w.processFlags
  environment : w'.environment = w.environment
  outside : w'.outside = w.outside

instance : Std.Refl (@Observed τ σ) := ⟨fun _ => ⟨rfl, rfl, rfl, rfl, rfl, rfl⟩⟩

instance : IsTrans (World τ σ) Observed :=
  ⟨fun _ _ _ h k => ⟨k.now.trans h.now, k.registry.trans h.registry, k.delivery.trans h.delivery,
    k.processFlags.trans h.processFlags, k.environment.trans h.environment,
    k.outside.trans h.outside⟩⟩

/-- A world and a later one that differ in the breakers and in what was observed only. -/
structure Steady (w w' : World τ σ) : Prop where
  now : w'.now = w.now
  delivery : w'.delivery = w.delivery
  processFlags : w'.processFlags = w.processFlags
  environment : w'.environment = w.environment
  outside : w'.outside = w.outside

instance : Std.Refl (@Steady τ σ) := ⟨fun _ => ⟨rfl, rfl, rfl, rfl, rfl⟩⟩

instance : IsTrans (World τ σ) Steady :=
  ⟨fun _ _ _ h k => ⟨k.now.trans h.now, k.delivery.trans h.delivery,
    k.processFlags.trans h.processFlags, k.environment.trans h.environment,
    k.outside.trans h.outside⟩⟩

theorem Observed.steady {w w' : World τ σ} (h : Observed w w') : Steady w w' :=
  ⟨h.now, h.delivery, h.processFlags, h.environment, h.outside⟩

/-- The metrics service may refuse a datum, but it does not break down. -/
def Delivers (w : World τ σ) : Prop := ∀ f, w.delivery ≠ .broken f

theorem Steady.delivers {w w' : World τ σ} (h : Steady w w') (hw : w.Delivers) : w'.Delivers := by
  unfold Delivers
  rw [h.delivery]
  exact hw

theorem ledger_modifyLedger {w : World τ σ} {k : Sink} (hk : k.number < w.ledgers.length)
    (f : Ledger → Ledger) : (w.modifyLedger k f).ledger k = f (w.ledger k) := by
  simp [ledger, modifyLedger, hk]

end World

theorem Metric.givenLabels_object (name value : Json) (labels : List (String × Json)) :
    Metric.givenLabels ⟨name, value, .object labels⟩ = .object labels := by
  cases labels <;> rfl

open Effect World

theorem moves_logged (r : LogRecord) : Moves Observed (Run.logged r : Run τ σ Unit) :=
  Moves.modify fun _ => ⟨rfl, rfl, rfl, rfl, rfl, rfl⟩

namespace Sink

theorem moves_make (b : Backend) : Moves Observed (make b : Run τ σ Sink) := by
  intro w
  exact ⟨rfl, rfl, rfl, rfl, rfl, rfl⟩

theorem moves_setting (name : String) : Moves Observed (Run.setting? name : Run τ σ _) :=
  fun w => refl_of Observed w

theorem moves_namespaceOr (given : Json) : Moves Observed (namespaceOr given : Run τ σ Json) := by
  unfold namespaceOr
  split
  · exact Moves.pure _
  · exact Moves.bind (moves_setting _) fun _ => Moves.pure _

theorem moves_ofName (name given : Json) : Moves Observed (ofName name given : Run τ σ Sink) := by
  unfold ofName
  extract_lets named
  have hn : ∀ text, Moves Observed (named text : Run τ σ Sink) := by
    intro text
    unfold named
    split
    · exact moves_make _
    · exact Moves.bind (moves_namespaceOr _) fun _ => moves_make _
    · exact moves_make _
  split
  · exact Moves.bind (Moves.ofForeign _) hn
  · exact Moves.bind (moves_setting _) fun _ => hn _

theorem moves_shared : Moves Observed (shared : Run τ σ Sink) := by
  refine Moves.bind Moves.get fun w => ?_
  split
  · exact Moves.pure _
  · refine Moves.bind (moves_ofName _ _) fun s => ?_
    refine Moves.bind (Moves.modify fun _ => ?_) fun _ => Moves.pure s
    exact ⟨rfl, rfl, rfl, rfl, rfl, rfl⟩

theorem moves_publish (n : Json) (d : Datum) : Moves Observed (publish n d : Run τ σ Unit) := by
  refine Moves.bind (Moves.modify fun _ => ⟨rfl, rfl, rfl, rfl, rfl, rfl⟩) fun _ => ?_
  refine Moves.bind Moves.get fun w => ?_
  split
  · exact Moves.pure _
  · exact moves_logged _
  · exact Moves.fail _

theorem moves_record (s : Sink) (m : Metric) : Moves Observed (s.record m : Run τ σ Unit) := by
  unfold record
  split
  · refine Moves.bind (Moves.ofForeign _) fun _ => Moves.modify fun _ => ?_
    exact ⟨rfl, rfl, rfl, rfl, rfl, rfl⟩
  · exact moves_logged _
  · exact Moves.bind (Moves.ofExcept _) fun _ => moves_publish _ _

theorem moves_count (s : Option Sink) (name : String) (labels : List (String × Json)) :
    Moves Observed (count s name labels : Run τ σ Unit) := by
  refine Moves.bind ?_ fun s => moves_record s _
  unfold orShared
  split
  · exact Moves.pure _
  · exact moves_shared

end Sink

theorem returns_logged (r : LogRecord) : Returns Delivers (Run.logged r : Run τ σ Unit) :=
  Returns.modify fun _ hw => hw

theorem returns_setting (name : String) : Returns Delivers (Run.setting? name : Run τ σ _) :=
  fun _ hw => ⟨hw, _, rfl⟩

namespace Sink

theorem returns_make (b : Backend) : Returns Delivers (make b : Run τ σ Sink) :=
  fun w hw => ⟨hw, ⟨w.ledgers.length, b⟩, rfl⟩

theorem returns_namespaceOr (given : Json) :
    Returns Delivers (namespaceOr given : Run τ σ Json) := by
  unfold namespaceOr
  split
  · exact Returns.pure _
  · exact Returns.bind (returns_setting _) fun _ => Returns.pure _

theorem returns_ofName : Returns Delivers (ofName .null .null : Run τ σ Sink) := by
  unfold ofName
  extract_lets named
  have hn : ∀ text, Returns Delivers (named text : Run τ σ Sink) := by
    intro text
    unfold named
    split
    · exact returns_make _
    · exact Returns.bind (returns_namespaceOr _) fun _ => returns_make _
    · exact returns_make _
  rw [if_neg (by simp [Json.holds])]
  exact Returns.bind (returns_setting _) fun _ => hn _

theorem returns_shared : Returns Delivers (shared : Run τ σ Sink) := by
  refine Returns.get_bind fun _ _ => ?_
  split
  · exact Returns.pure _
  · refine Returns.bind returns_ofName fun s => ?_
    exact Returns.bind (Returns.modify fun _ hw => hw) fun _ => Returns.pure s

theorem returns_publish (n : Json) (d : Datum) :
    Returns Delivers (publish n d : Run τ σ Unit) := by
  refine Returns.bind (Returns.modify fun _ hw => hw) fun _ => ?_
  refine Returns.get_bind fun _ hw => ?_
  split
  · exact Returns.pure _
  · exact returns_logged _
  · exact absurd ‹_› (hw _)

/-- A count is kept, written or published whatever its labels are. -/
theorem returns_count (s : Option Sink) (name : String) (labels : List (String × Json)) :
    Returns Delivers (count s name labels : Run τ σ Unit) := by
  refine Returns.bind ?_ fun s => ?_
  · unfold orShared
    split
    · exact Returns.pure _
    · exact returns_shared
  · unfold record
    split
    · simp only [Metric.kept, Metric.givenLabels_object, Json.dictionary]
      exact Returns.bind (Returns.pure _) fun _ => Returns.modify fun _ hw => hw
    · exact returns_logged _
    · simp only [Datum.ofMetric, Metric.givenLabels_object]
      exact Returns.bind (Returns.pure _) fun _ => returns_publish _ _

end Sink

theorem returns_announce (c : Breaker.Cell τ) (n : Breaker.Notice) :
    Returns Delivers (Breaker.announce c n : Run τ σ Unit) := by
  cases n with
  | moved before after => exact Returns.bind (Sink.returns_count _ _ _) fun _ => returns_logged _
  | blocked phase ms => exact Returns.bind (Sink.returns_count _ _ _) fun _ => returns_logged _
  | reset => exact returns_logged _

theorem returns_announceAll (c : Breaker.Cell τ) (ns : List Breaker.Notice) :
    Returns Delivers (Breaker.announceAll c ns : Run τ σ Unit) := by
  induction ns with
  | nil => exact Returns.pure _
  | cons n rest ih => exact Returns.bind (returns_announce c n) fun _ => ih

theorem moves_announce (c : Breaker.Cell τ) (n : Breaker.Notice) :
    Moves Observed (Breaker.announce c n : Run τ σ Unit) := by
  cases n with
  | moved before after => exact Moves.bind (Sink.moves_count _ _ _) fun _ => moves_logged _
  | blocked phase ms => exact Moves.bind (Sink.moves_count _ _ _) fun _ => moves_logged _
  | reset => exact moves_logged _

theorem moves_announceAll (c : Breaker.Cell τ) (ns : List Breaker.Notice) :
    Moves Observed (Breaker.announceAll c ns : Run τ σ Unit) := by
  induction ns with
  | nil => exact Moves.pure _
  | cons n rest ih => exact Moves.bind (moves_announce c n) fun _ => ih

theorem moves_inject (h : Fault.Harness) (identifier : String) :
    Moves Observed (h.inject identifier : Run τ σ Unit) := by
  refine Moves.bind Moves.get fun w => ?_
  split
  · exact Moves.bind (moves_logged _) fun _ => Moves.stop _
  · exact Moves.pure _

theorem inject_fst (h : Fault.Harness) (identifier : String) (w : World τ σ) :
    (h.inject identifier w).1 =
      if h.isEnabled w identifier then .error (.failed (.injected identifier)) else .ok () := by
  unfold Fault.Harness.inject Fault.Harness.injectAs
  rw [get_bind_apply]
  split
  · rfl
  · rfl

end ResilientCalls
