import ResilientCalls.Proofs.Breaker.Steps

namespace ResilientCalls

variable {τ σ α : Type}

/-- What can be counted of a world: the observations of a counter, or the records of an event. -/
inductive Seen where
  | metric (name : String)
  | record (event : String)
  deriving DecidableEq

/-- Is it a text, and the given one? -/
def Json.isTextOf (name : String) : Json → Bool
  | .text s => s = name
  | _ => false

/-- Does a record show what is counted? -/
def LogRecord.shows (r : LogRecord) : Seen → Bool
  | .metric name => r.event = "metric" && (Json.get? "metric" r.fields).any (·.isTextOf name)
  | .record event => r.event = event

namespace World

def tally (x : Seen) (w : World τ σ) : Nat :=
  match x with
  | .metric name =>
    (w.ledgers.flatMap (·.metrics)).countP (·.name.isTextOf name)
      + w.published.countP (·.2.name.isTextOf name) + w.log.countP (·.shows x)
  | .record _ => w.log.countP (·.shows x)

/-- The sinks in use have been made: the one given, if any, and the shared one. -/
def HasSinks (k : Option Sink) (w : World τ σ) : Prop :=
  ∀ s, k = some s ∨ w.sharedSink = some s → s.number < w.ledgers.length

/-- A world and a later one in which something was seen `n` times more. -/
def Gains (k : Option Sink) (x : Seen) (n : Nat) (w w' : World τ σ) : Prop :=
  w.HasSinks k → w'.HasSinks k ∧ w'.tally x = w.tally x + n

variable {k : Option Sink} {x : Seen} {m n : Nat} {w w' w'' : World τ σ}

theorem Gains.trans (h : Gains k x m w w') (h' : Gains k x n w' w'') :
    Gains k x (m + n) w w'' := by
  intro hs
  obtain ⟨hs', ht'⟩ := h hs
  obtain ⟨hs'', ht''⟩ := h' hs'
  exact ⟨hs'', by omega⟩

instance : Std.Refl (@Gains τ σ k x 0) := ⟨fun _ hs => ⟨hs, rfl⟩⟩

instance : IsTrans (World τ σ) (Gains k x 0) := ⟨fun _ _ _ => Gains.trans⟩

theorem tally_addLog (x : Seen) (r : LogRecord) (w : World τ σ) :
    (w.addLog r).tally x = w.tally x + if r.shows x then 1 else 0 := by
  cases x with
  | metric name =>
    simp only [tally, addLog, List.countP_append, List.countP_singleton]
    omega
  | record event => simp only [tally, addLog, List.countP_append, List.countP_singleton]

theorem gains_addLog (k : Option Sink) (x : Seen) (r : LogRecord) (w : World τ σ) :
    Gains k x (if r.shows x then 1 else 0) w (w.addLog r) := fun hs => ⟨hs, tally_addLog x r w⟩

end World

open Effect World

variable {k : Option Sink} {x : Seen}

/-- What is shown in passing, by breakers and retries and by counting itself. -/
def Seen.incidental : List Seen :=
  [.metric Breaker.transitionMetric, .record "metric", .record "Failed to publish metric",
    .record "Circuit breaker state transition", .record "Circuit breaker blocked request",
    .record "Operation failed after max attempts", .record "Operation failed permanently",
    .record "Retrying operation"]

theorem LogRecord.shows_eq_false {r : LogRecord} (hx : x ∉ Seen.incidental)
    (hr : .record r.event ∈ Seen.incidental) (hm : r.event ≠ "metric") : r.shows x = false := by
  cases x with
  | metric name => simp [shows, hm]
  | record event =>
    have hne : r.event ≠ event := by
      rintro rfl
      exact hx hr
    simp [shows, hne]

theorem gains_logged (k : Option Sink) (x : Seen) (r : LogRecord) :
    Moves (Gains k x (if r.shows x then 1 else 0)) (Run.logged r : Run τ σ Unit) :=
  Moves.modify fun w => gains_addLog k x r w

theorem gains_logged_of_hidden {r : LogRecord} (h : r.shows x = false) :
    Moves (Gains k x 0) (Run.logged r : Run τ σ Unit) := by
  have hg := gains_logged (τ := τ) (σ := σ) k x r
  rw [h] at hg
  exact hg

theorem gains_inject (hx : x ≠ .record "Injecting fault") (h : Fault.Harness)
    (identifier : String) : Moves (Gains k x 0) (h.inject identifier : Run τ σ Unit) := by
  refine Moves.bind Moves.get fun w => ?_
  split
  · refine Moves.bind (gains_logged_of_hidden ?_) fun _ => Moves.stop _
    cases x with
    | metric name => simp [LogRecord.shows, Fault.injectingRecord]
    | record event =>
      have hne : "Injecting fault" ≠ event := by
        rintro rfl
        exact hx rfl
      simp [LogRecord.shows, Fault.injectingRecord, hne]
  · exact Moves.pure _

namespace Sink

/-- Counting goes up by as much as it does in the one item that is modified. -/
theorem countP_flatMap_modify {β γ : Type} {p : γ → Bool} {f : β → List γ} {g : β → β} {n : Nat}
    (hg : ∀ b, (f (g b)).countP p = (f b).countP p + n) {l : List β} {i : Nat} (hi : i < l.length) :
    ((l.modify i g).flatMap f).countP p = (l.flatMap f).countP p + n := by
  induction l generalizing i with
  | nil => simp at hi
  | cons b l ih =>
    cases i with
    | zero =>
      simp only [List.modify_zero_cons, List.flatMap_cons, List.countP_append, hg]
      omega
    | succ i =>
      have htail : i < l.length := by simpa using hi
      have hcount := ih htail
      simp only [List.modify_succ_cons, List.flatMap_cons, List.countP_append, hcount]
      omega

/-- The environment tells which sink is made when none is named. -/
theorem ofName_eq_make (w : World τ σ) : ∃ b, ∀ v : World τ σ, v.environment = w.environment →
    ofName .null .null v = make b v := by
  have hset : ∀ (name : String) (v : World τ σ), v.environment = w.environment →
      Run.setting? name v = (.ok (Json.get? name w.environment), v) := by
    intro name v hv
    rw [← hv]
    rfl
  obtain ⟨n, hn⟩ : ∃ n, ∀ v : World τ σ, v.environment = w.environment →
namespaceOr .null v = (.ok n, v) := ⟨_, fun v hv => bind_of_ok (hset _ v hv) _⟩
  unfold ofName
  simp only [if_neg (show ¬ Json.null.holds = true by simp [Json.holds])]
  generalize hb : ((Json.get? "METRICS_BACKEND" w.environment).getD "log").toLower = text
  by_cases hmemory : text = "memory"
  · refine ⟨.memory, fun v hv => ?_⟩
    rw [bind_of_ok (hset _ v hv), Effect.pure_bind, hb, hmemory]
    rfl
  · by_cases hcloud : text = "cloudwatch"
    · refine ⟨.cloudWatch n, fun v hv => ?_⟩
      rw [bind_of_ok (hset _ v hv), Effect.pure_bind, hb, hcloud]
      exact bind_of_ok (hn v hv) _
    · refine ⟨.log, fun v hv => ?_⟩
      rw [bind_of_ok (hset _ v hv), Effect.pure_bind, hb]
      split
      · contradiction
      · contradiction
      · rfl

/-- The shared sink is made on first use, with a ledger in which nothing is kept. -/
theorem shared_of_make {w : World τ σ} {b : Backend} (hw : w.sharedSink = none)
    (hb : ofName .null .null w = make b w) : shared w = (.ok ⟨w.ledgers.length, b⟩, { w with
      ledgers := w.ledgers ++ [.empty]
      sharedSink := some ⟨w.ledgers.length, b⟩ }) := by
  have hmake : make b w = (.ok ⟨w.ledgers.length, b⟩,
      { w with ledgers := w.ledgers ++ [.empty] }) := rfl
  simp only [shared, get_bind_apply, hw]
  rw [bind_of_ok (hb.trans hmake)]
  rfl

theorem shared_of_some {w : World τ σ} {s : Sink} (hw : w.sharedSink = some s) :
    shared w = (.ok s, w) := by
  simp only [shared, get_bind_apply, hw, pure_apply]

/-- Whichever sink is used, it is there once it is asked for, and nothing was observed yet. -/
theorem orShared_spec {s : Option Sink} {w : World τ σ} (h : s = none ∨ s = k)
    (hw : w.HasSinks k) : ∃ l w', orShared s w = (.ok l, w') ∧ l.number < w'.ledgers.length ∧
      w'.HasSinks k ∧ w'.tally x = w.tally x := by
  cases s with
  | some l =>
    have hl : some l = k := by simpa using h
    exact ⟨l, w, rfl, hw l (Or.inl hl.symm), hw, rfl⟩
  | none =>
    cases hsh : w.sharedSink with
    | some l => exact ⟨l, w, shared_of_some hsh, hw l (Or.inr hsh), hw, rfl⟩
    | none =>
      obtain ⟨b, hb⟩ := ofName_eq_make w
      refine ⟨⟨w.ledgers.length, b⟩, _, shared_of_make hsh (hb w rfl), ?_, ?_, ?_⟩
      · simp
      · intro l hl
        simp only [List.length_append, List.length_singleton]
        rcases hl with hl | hl
        · exact Nat.lt_succ_of_lt (hw l (Or.inl hl))
        · obtain rfl := Option.some.inj hl
          exact Nat.lt_succ_self _
      · cases x with
        | metric name => simp [tally, Ledger.empty]
        | record event => rfl

theorem gains_kept {l : Sink} {w : World τ σ} (hl : l.number < w.ledgers.length) (name : String)
    (labels : List (String × Json)) : Gains k x (if x = .metric name then 1 else 0) w
      (w.modifyLedger l (·.add ⟨.text name, .int 1, .object labels⟩)) := by
  intro hs
  refine ⟨fun s h => ?_, ?_⟩
  · simp only [modifyLedger, List.length_modify]
    exact hs s h
  · cases x with
    | record event => simp [tally, modifyLedger]
    | metric other =>
      have hadd : ∀ d : Ledger,
          (d.add ⟨.text name, .int 1, .object labels⟩).metrics.countP (·.name.isTextOf other) =
            d.metrics.countP (·.name.isTextOf other) + if other = name then 1 else 0 := by
        intro d
        simp [Ledger.add, List.countP_append, Json.isTextOf, eq_comm]
      simp only [tally, modifyLedger, Seen.metric.injEq]
      rw [countP_flatMap_modify (f := fun l : Ledger => l.metrics) hadd hl]
      omega

theorem shows_logRecord (hx : x ∉ Seen.incidental) (name : String) (labels : List (String × Json)) :
    (Metric.logRecord ⟨.text name, .int 1, .object labels⟩).shows x =
      decide (x = .metric name) := by
  cases x with
  | metric other => simp [LogRecord.shows, Metric.logRecord, Json.get?, Json.isTextOf, eq_comm]
  | record event =>
    have hne : "metric" ≠ event := by
      rintro rfl
      simp [Seen.incidental] at hx
    simp [LogRecord.shows, Metric.logRecord, hne]

/-- A datum counts once it is handed over, also when it is refused. -/
theorem gains_publish (hx : x ∉ Seen.incidental) {name : String} (n : Json) {d : Datum}
    (hd : d.name = .text name) :
    Moves (Gains k x (if x = .metric name then 1 else 0)) (publish n d : Run τ σ Unit) := by
  intro w
  have hpublished : Gains k x (if x = .metric name then 1 else 0) w
      { w with published := w.published ++ [(n, d)] } := by
    refine fun hs => ⟨hs, ?_⟩
    cases x with
    | record event => simp [tally]
    | metric other =>
      have hshown : d.name.isTextOf other = decide (other = name) := by
        rw [hd]
        exact decide_eq_decide.2 eq_comm
      simp only [tally, List.countP_append, List.countP_singleton, hshown, Seen.metric.injEq,
        decide_eq_true_eq]
      omega
  simp only [publish, modify_bind_apply, get_bind_apply]
  cases w.delivery with
  | accepted => exact hpublished
  | broken f => exact hpublished
  | refused reason =>
    refine hpublished.trans (gains_logged_of_hidden ?_ _)
    exact LogRecord.shows_eq_false hx (by simp [Seen.incidental]) (by simp)

theorem gains_record {l : Sink} {w : World τ σ} (hx : x ∉ Seen.incidental)
    (hl : l.number < w.ledgers.length) (name : String) (labels : List (String × Json)) :
    Gains k x (if x = .metric name then 1 else 0) w
      (l.record ⟨.text name, .int 1, .object labels⟩ w).2 := by
  unfold record
  cases l.backend with
  | memory =>
    simp only [Metric.kept, Metric.givenLabels_object, Json.dictionary]
    exact gains_kept hl name labels
  | log =>
    have hg := gains_logged (τ := τ) (σ := σ) k x
      (Metric.logRecord ⟨.text name, .int 1, .object labels⟩) w
    simpa [shows_logRecord hx] using hg
  | cloudWatch n =>
    simp only [Datum.ofMetric, Metric.givenLabels_object]
    apply gains_publish hx n
    rfl

theorem gains_count {s : Option Sink} (hx : x ∉ Seen.incidental) (h : s = none ∨ s = k)
    (name : String) (labels : List (String × Json)) :
    Moves (Gains k x (if x = .metric name then 1 else 0))
      (count s name labels : Run τ σ Unit) := by
  intro w hw
  obtain ⟨l, w', hl, hlt, hw', ht⟩ := orShared_spec (x := x) h hw
  rw [count, bind_of_ok hl]
  obtain ⟨hs, htally⟩ := gains_record hx hlt name labels hw'
  exact ⟨hs, by rw [htally, ht]⟩

end Sink

namespace Breaker

variable {id : Id}

theorem gains_setState (w : World τ σ) (id : Id) (s : State τ) :
    Gains k x 0 w { w with registry := w.registry.setState id s } := fun hs => ⟨hs, by
  cases x <;> rfl⟩

theorem gains_announce_moved (hx : x ∉ Seen.incidental) (c : Cell τ) (before after : Phase) :
    Moves (Gains k x 0) (announce c (.moved before after) : Run τ σ Unit) := by
  have hne : x ≠ .metric transitionMetric := by
    rintro rfl
    simp [Seen.incidental] at hx
  refine Moves.bind ?_ fun _ => gains_logged_of_hidden ?_
  · have hg := Sink.gains_count (τ := τ) (σ := σ) (k := k) hx (Or.inl rfl) transitionMetric
      [("key", c.config.key), ("state", .text after.name)]
    rw [if_neg hne] at hg
    exact hg
  · exact LogRecord.shows_eq_false hx (by simp [Cell.logRecord, Seen.incidental])
      (by simp [Cell.logRecord])

theorem gains_announceAll_moved (hx : x ∉ Seen.incidental) (c : Cell τ) {ns : List Notice}
    (hns : ∀ n ∈ ns, ∃ before after, n = .moved before after) :
    Moves (Gains k x 0) (announceAll c ns : Run τ σ Unit) := by
  induction ns with
  | nil => exact Moves.pure _
  | cons n rest ih =>
    obtain ⟨before, after, rfl⟩ := hns n (List.mem_cons_self ..)
    refine Moves.bind (gains_announce_moved hx c before after) fun _ => ih fun n hn => ?_
    exact hns n (List.mem_cons_of_mem _ hn)

theorem moved_of_mem_move {s : State τ} {now : τ} {phase : Phase} {n : Notice}
    (h : n ∈ (s.move now phase).2) : ∃ before after, n = .moved before after := by
  unfold State.move at h
  split at h
  · cases h
  · exact ⟨_, _, List.mem_singleton.1 h⟩

/-- A step that only moves the breaker shows nothing but that. -/
theorem gains_advance (hx : x ∉ Seen.incidental)
    {step : State τ → Config → τ → State τ × List Notice}
    (hstep : ∀ s c now, ∀ n ∈ (step s c now).2, ∃ before after, n = .moved before after) :
    Moves (Gains k x 0) (advance id step : Run τ σ Unit) := by
  refine Moves.bind Moves.get fun w => ?_
  split
  · exact Moves.pure _
  · refine Moves.bind (Moves.modify fun w => gains_setState w id _) fun _ => ?_
    exact gains_announceAll_moved hx _ (hstep _ _ _)

theorem gains_recordFailure (hx : x ∉ Seen.incidental) :
    Moves (Gains k x 0) (recordFailure id : Run τ σ Unit) := by
  refine gains_advance hx fun s c now n hn => ?_
  unfold State.recordFailure at hn
  split at hn
  · cases hn
  · split at hn
    · exact moved_of_mem_move hn
    · dsimp only at hn
      split at hn
      · exact moved_of_mem_move hn
      · cases hn
    · cases hn

theorem gains_probe (hx : x ∉ Seen.incidental) :
    Moves (Gains k x 0) (advance id fun s _ now => s.probe now : Run τ σ Unit) := by
  refine gains_advance hx fun s _ now n hn => ?_
  unfold State.probe at hn
  split at hn
  · exact moved_of_mem_move hn
  · cases hn

theorem gains_take : Moves (Gains k x 0) (take id : Run τ σ Ticket) := by
  refine Moves.bind Moves.get fun w => ?_
  split
  · exact Moves.pure _
  · exact Moves.bind (Moves.modify fun w => gains_setState w id _) fun _ => Moves.pure _

theorem gains_release (t : Ticket) :
    Moves (Gains k x 0) (release id t : Run τ σ Ticket) := by
  refine Moves.bind Moves.get fun w => ?_
  split
  · exact Moves.pure _
  · exact Moves.bind (Moves.modify fun w => gains_setState w id _) fun _ => Moves.pure _

theorem gains_announce_blocked (hx : x ∉ Seen.incidental) (c : Cell τ) (phase : Phase)
    (ms : Option Nat) : Moves (Gains k x (if x = .metric blockedMetric then 1 else 0))
      (announce c (.blocked phase ms) : Run τ σ Unit) := by
  intro w
  have hcount := Sink.gains_count (τ := τ) (σ := σ) (k := k) hx (Or.inl rfl) blockedMetric
    [("key", c.config.key), ("state", .text phase.name)] w
  show Gains k x _ w ((Sink.count none blockedMetric _ >>= fun _ => _) w).2
  cases h : Sink.count none blockedMetric
      [("key", c.config.key), ("state", .text phase.name)] w with
  | mk r w' =>
    rw [h] at hcount
    cases r with
    | error e =>
      rw [bind_of_error h]
      exact hcount
    | ok u =>
      rw [bind_of_ok h]
      refine hcount.trans (gains_logged_of_hidden ?_ w')
      exact LogRecord.shows_eq_false hx (by simp [Cell.logRecord, Seen.incidental])
        (by simp [Cell.logRecord])

variable [Clock τ]

/-- To be granted admission is shown by a change of phase at most. -/
theorem gains_enter_of_granted (hx : x ∉ Seen.incidental) {w : World τ σ} {c : Cell τ}
    (hc : w.registry.cell? id = some c) (hv : c.state.verdict c.config w.now = .ok .granted) :
    Gains k x 0 w (enter id w).2 := by
  cases hen : c.config.isEnabled with
  | false =>
    rw [enter_of_disabled hc hen]
    exact refl_of (Gains k x 0) w
  | true =>
    rw [enter_of_verdict hc hen hv]
    exact Moves.bind (gains_probe hx) (fun _ => gains_take) w

end Breaker

end ResilientCalls
