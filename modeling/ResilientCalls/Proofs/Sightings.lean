import ResilientCalls.Proofs.Tally

namespace ResilientCalls

variable {τ σ : Type}

/-- What kinds of observations there are. -/
inductive Kind where
  | count
  | request
  deriving DecidableEq

/-- An observation in the form in which a backend has received it. -/
inductive Sighting where
  | kept (m : Metric)
  | measured (r : RequestMetric)
  | written (r : LogRecord)
  | published (namespace_ : Json) (d : Datum)

/-- The name of the metric that is shown, null for the measurement of a request. -/
def Sighting.metric : Sighting → Json
  | kept m => m.name
  | measured _ => .null
  | written r => (Json.get? "metric" r.fields).getD .null
  | published _ d => d.name

namespace Kind

/-- The event of the records that show a kind. -/
def event : Kind → String
  | count => "metric"
  | request => "request_metric"

def kept : Kind → Ledger → List Sighting
  | count, l => l.metrics.map .kept
  | request, l => l.requests.map .measured

end Kind

namespace Sink

/-- How a count is shown. -/
def showingCount (k : Sink) (name : String) (labels : List (String × Json)) : Sighting :=
  match k.backend with
  | .memory => .kept ⟨.text name, .int 1, .object labels⟩
  | .log => .written (Metric.logRecord ⟨.text name, .int 1, .object labels⟩)
  | .cloudWatch n => .published n ⟨.text name, 1, "Count", Datum.dimensionsOf labels⟩

/-- How the measurement of a request is shown. -/
def showing (k : Sink) (r : RequestMetric) : Sighting :=
  match k.backend with
  | .memory => .measured r
  | .log => .written r.logRecord
  | .cloudWatch n => .published n (.ofRequest r)

end Sink

namespace World

/-- What a sink shows of a kind. -/
def sightings (x : Kind) (k : Sink) (w : World τ σ) : List Sighting :=
  match k.backend with
  | .memory => x.kept (w.ledger k)
  | .log => (w.log.filter (·.event = x.event)).map .written
  | .cloudWatch _ => w.published.map fun p => .published p.1 p.2

/-- The sink that is used where this one is given, or none. -/
def Uses (s : Option Sink) (k : Sink) (w : World τ σ) : Prop :=
  s = some k ∨ s = none ∧ w.sharedSink = some k

/-- No other sink is used where this one is given, or none. -/
def UsesOnly (s : Option Sink) (k : Sink) (w : World τ σ) : Prop := ∀ l, w.Uses s l → l = k

/-- A sink that is shared stays so. -/
def Retains (w w' : World τ σ) : Prop := ∀ l, w.sharedSink = some l → w'.sharedSink = some l

/-- Metrics are delivered, and the sinks in use have been made. -/
structure Fit (s : Option Sink) (w : World τ σ) : Prop where
  delivers : w.Delivers
  hasSinks : w.HasSinks s

/-- No sink is taken out of use between two worlds, and nothing that was counted is taken back. -/
def Grows (s : Option Sink) (w w' : World τ σ) : Prop :=
  w.Fit s → w'.Fit s ∧ Retains w w' ∧ ∀ k, w.sightings .count k <+: w'.sightings .count k

instance (s : Option Sink) : Std.Refl (@Grows τ σ s) :=
  ⟨fun _ hw => ⟨hw, fun _ => id, fun _ => List.prefix_refl _⟩⟩

instance (s : Option Sink) : IsTrans (World τ σ) (Grows s) := by
  refine ⟨fun _ _ _ h k hw => ?_⟩
  obtain ⟨hw', hr, hs⟩ := h hw
  obtain ⟨hw'', hr', hs'⟩ := k hw'
  exact ⟨hw'', fun l hl => hr' l (hr l hl), fun l => (hs l).trans (hs' l)⟩

/-- One observation at a sink lies between two worlds. A sink of the same backend may show it
too. -/
structure Adds (x : Kind) (k : Sink) (s : Sighting) (w w' : World τ σ) : Prop where
  observed : Observed w w'
  sharedSink : w'.sharedSink = w.sharedSink
  length_ledgers : w'.ledgers.length = w.ledgers.length
  sightings : w'.sightings x k = w.sightings x k ++ [s]
  elsewhere : ∀ l, w'.sightings x l = w.sightings x l ∨ w'.sightings x l = w.sightings x l ++ [s]

/-- A sink was asked for between two worlds, and is ready to be used. -/
structure Readies (given kept : Option Sink) (k : Sink) (w w' : World τ σ) : Prop where
  observed : Observed w w'
  uses : w'.Uses given k
  made : k.number < w'.ledgers.length
  hasSinks : w'.HasSinks kept
  retains : Retains w w'
  sightings : ∀ x l, w'.sightings x l = w.sightings x l

variable {x : Kind} {k : Sink} {s : Sighting} {w w' : World τ σ}

theorem exists_usesOnly (given : Option Sink) (w : World τ σ) : ∃ k, w.UsesOnly given k := by
  cases given with
  | some k => exact ⟨k, fun l hl => by simpa [Uses, eq_comm] using hl⟩
  | none =>
    cases hsh : w.sharedSink with
    | some k => exact ⟨k, fun l hl => by simpa [Uses, hsh, eq_comm] using hl⟩
    | none => exact ⟨⟨0, .log⟩, fun l hl => by simp [Uses, hsh] at hl⟩

theorem UsesOnly.of_retains {given : Option Sink} (h : w'.UsesOnly given k) (hr : Retains w w') :
    w.UsesOnly given k := fun l hl => h l (hl.imp id fun hl => ⟨hl.1, hr l hl.2⟩)

theorem sightings_addLog {r : LogRecord} (hr : r.event ≠ x.event) :
    (w.addLog r).sightings x k = w.sightings x k := by
  unfold World.sightings
  cases k.backend with
  | memory => rfl
  | cloudWatch n => rfl
  | log => simp [addLog, hr]

theorem observed_modifyLedger (w : World τ σ) (k : Sink) (f : Ledger → Ledger) :
    Observed w (w.modifyLedger k f) := ⟨rfl, rfl, rfl, rfl, rfl, rfl⟩

theorem observed_addLog (w : World τ σ) (r : LogRecord) : Observed w (w.addLog r) :=
  ⟨rfl, rfl, rfl, rfl, rfl, rfl⟩

theorem ledger_modifyLedger_of_ne {l : Sink} (h : l.number ≠ k.number) (f : Ledger → Ledger) :
    (w.modifyLedger k f).ledger l = w.ledger l := by
  simp [ledger, modifyLedger, Ne.symm h]

theorem ledger_congr {l : Sink} (h : l.number = k.number) (w : World τ σ) :
    w.ledger l = w.ledger k := by
  rw [ledger, ledger, h]

theorem adds_modifyLedger (hm : k.backend = .memory) (hk : k.number < w.ledgers.length)
    {f : Ledger → Ledger} (hf : ∀ l, x.kept (f l) = x.kept l ++ [s]) :
    Adds x k s w (w.modifyLedger k f) := by
  have hown : x.kept ((w.modifyLedger k f).ledger k) = x.kept (w.ledger k) ++ [s] := by
    rw [ledger_modifyLedger hk, hf]
  refine ⟨observed_modifyLedger w k f, rfl, by simp [modifyLedger], ?_, fun l => ?_⟩
  · unfold World.sightings
    rw [hm]
    exact hown
  · unfold World.sightings
    cases l.backend with
    | log => exact Or.inl rfl
    | cloudWatch n => exact Or.inl rfl
    | memory =>
      -- sinks of the same number keep the same ledger
      by_cases hl : l.number = k.number
      · right
        dsimp only
        rw [ledger_congr hl, ledger_congr hl, hown]
      · left
        dsimp only
        rw [ledger_modifyLedger_of_ne hl]

theorem adds_addLog (hk : k.backend = .log) {r : LogRecord} (hr : r.event = x.event) :
    Adds x k (.written r) w (w.addLog r) := by
  refine ⟨observed_addLog w r, rfl, rfl, ?_, fun l => ?_⟩
  · simp [World.sightings, hk, addLog, hr]
  · unfold World.sightings
    cases l.backend with
    | memory => exact Or.inl rfl
    | cloudWatch n => exact Or.inl rfl
    | log => exact Or.inr (by simp [addLog, hr])

theorem adds_published {b : Json} (hk : k.backend = .cloudWatch b) (n : Json) (d : Datum) :
    Adds x k (.published n d) w { w with published := w.published ++ [(n, d)] } := by
  refine ⟨⟨rfl, rfl, rfl, rfl, rfl, rfl⟩, rfl, rfl, ?_, fun l => ?_⟩
  · simp [World.sightings, hk]
  · unfold World.sightings
    cases l.backend with
    | memory => exact Or.inl rfl
    | log => exact Or.inl rfl
    | cloudWatch n => exact Or.inr (by simp)

/-- A record that shows nothing makes no difference afterwards. -/
theorem Adds.addLog (h : Adds x k s w w') {r : LogRecord} (hr : r.event ≠ x.event) :
    Adds x k s w (w'.addLog r) where
  observed := trans_of Observed h.observed (observed_addLog _ _)
  sharedSink := h.sharedSink
  length_ledgers := h.length_ledgers
  sightings := by rw [sightings_addLog hr, h.sightings]
  elsewhere l := by
    rw [sightings_addLog hr]
    exact h.elsewhere l

theorem Adds.hasSinks {given : Option Sink} (h : Adds x k s w w') (hw : w.HasSinks given) :
    w'.HasSinks given := by
  unfold HasSinks
  rw [h.sharedSink, h.length_ledgers]
  exact hw

end World

open Effect World

namespace Sink

variable {x : Kind} {s : Option Sink} {k : Sink} {w : World τ σ}

theorem metric_showingCount (k : Sink) (name : String) (labels : List (String × Json)) :
    (k.showingCount name labels).metric = .text name := by
  unfold showingCount
  cases k.backend <;> rfl

/-- A datum is shown also when the metrics service refuses it. -/
theorem publish_adds {b : Json} (hb : k.backend = .cloudWatch b) (hw : w.Delivers) (n : Json)
    (d : Datum) : ∃ w', publish n d w = (.ok (), w') ∧ Adds x k (.published n d) w w' := by
  have hadds := adds_published (x := x) (w := w) hb n d
  rcases w with
    ⟨now, registry, ledgers, sharedSink, log, sent, delivery, flags, environment, outside⟩
  cases delivery with
  | accepted => exact ⟨_, rfl, hadds⟩
  | broken f => exact absurd rfl (hw f)
  | refused reason =>
    refine ⟨_, rfl, hadds.addLog ?_⟩
    cases x <;> simp [Kind.event]

theorem recordRequest_adds (hw : w.Delivers) (hk : k.number < w.ledgers.length)
    (r : RequestMetric) :
    ∃ w', k.recordRequest r w = (.ok (), w') ∧ Adds .request k (k.showing r) w w' := by
  unfold recordRequest showing
  cases hb : k.backend with
  | memory =>
    refine ⟨_, rfl, adds_modifyLedger hb hk fun l => ?_⟩
    simp [Kind.kept, Ledger.addRequest]
  | log => exact ⟨_, rfl, adds_addLog hb rfl⟩
  | cloudWatch n => exact publish_adds hb hw n _

theorem record_adds (hw : w.Delivers) (hk : k.number < w.ledgers.length) (name : String)
    (labels : List (String × Json)) :
    ∃ w', k.record ⟨.text name, .int 1, .object labels⟩ w = (.ok (), w') ∧
      Adds .count k (k.showingCount name labels) w w' := by
  unfold record showingCount
  cases hb : k.backend with
  | memory =>
    simp only [Metric.kept, Metric.givenLabels_object, Json.dictionary]
    refine ⟨_, rfl, adds_modifyLedger hb hk fun l => ?_⟩
    simp [Kind.kept, Ledger.add]
  | log => exact ⟨_, rfl, adds_addLog hb rfl⟩
  | cloudWatch n =>
    have hdatum : Datum.ofMetric ⟨.text name, .int 1, .object labels⟩ =
        .ok ⟨.text name, 1, "Count", Datum.dimensionsOf labels⟩ := by
      simp only [Datum.ofMetric, Metric.givenLabels_object]
      rfl
    dsimp only
    rw [hdatum]
    exact publish_adds hb hw n _

theorem getD_append_singleton {β : Type} (bs : List β) (b : β) (i : Nat) :
    ((bs ++ [b])[i]?).getD b = (bs[i]?).getD b := by
  rcases Nat.lt_trichotomy i bs.length with hi | hi | hi
  · rw [List.getElem?_append_left hi]
  · simp [hi]
  · have hlen : (bs ++ [b]).length ≤ i := by simpa using Nat.succ_le_of_lt hi
    rw [List.getElem?_eq_none hlen, List.getElem?_eq_none (Nat.le_of_lt hi)]

/-- Whichever sink is used, it is there once it is asked for, and no sink shows more than before. -/
theorem orShared_readies {given : Option Sink} (h : given = none ∨ given = s) (hw : w.HasSinks s) :
    ∃ k w', orShared given w = (.ok k, w') ∧ Readies given s k w w' := by
  have hsame : ∀ k, w.Uses given k → k.number < w.ledgers.length → Readies given s k w w :=
    fun k huses hk => ⟨refl_of Observed w, huses, hk, hw, fun _ => id, fun _ _ => rfl⟩
  cases given with
  | some k =>
    have hs : some k = s := by simpa using h
    exact ⟨k, w, rfl, hsame k (Or.inl rfl) (hw k (Or.inl hs.symm))⟩
  | none =>
    cases hsh : w.sharedSink with
    | some k =>
      exact ⟨k, w, shared_of_some hsh, hsame k (Or.inr ⟨rfl, hsh⟩) (hw k (Or.inr hsh))⟩
    | none =>
      -- the shared sink is made now, with a ledger in which there is nothing yet
      obtain ⟨b, hb⟩ := ofName_eq_make w
      refine ⟨_, _, shared_of_make hsh (hb w rfl), ⟨rfl, rfl, rfl, rfl, rfl, rfl⟩,
        Or.inr ⟨rfl, rfl⟩, by simp, fun l hl => ?_, fun l hl => ?_, fun x l => ?_⟩
      · simp only [List.length_append, List.length_singleton]
        rcases hl with hl | hl
        · exact Nat.lt_succ_of_lt (hw l (Or.inl hl))
        · obtain rfl := Option.some.inj hl
          exact Nat.lt_succ_self _
      · rw [hsh] at hl
        cases hl
      · unfold World.sightings
        cases l.backend with
        | log => rfl
        | cloudWatch n => rfl
        | memory =>
          refine congrArg x.kept ?_
          exact getD_append_singleton w.ledgers .empty l.number

/-- One count at the sink that is used, given or shared, lies between two worlds. -/
structure Counts (given kept : Option Sink) (name : String) (labels : List (String × Json))
    (k : Sink) (w w' : World τ σ) : Prop where
  fit : w'.Fit kept
  outside : w'.outside = w.outside
  retains : Retains w w'
  uses : w'.Uses given k
  sightings : w'.sightings .count k = w.sightings .count k ++ [k.showingCount name labels]
  elsewhere : ∀ l, w'.sightings .count l = w.sightings .count l ∨
    w'.sightings .count l = w.sightings .count l ++ [k.showingCount name labels]

theorem count_counts {given : Option Sink} (h : given = none ∨ given = s) (hw : w.Fit s)
    (name : String) (labels : List (String × Json)) :
    ∃ k w', count given name labels w = (.ok (), w') ∧ Counts given s name labels k w w' := by
  obtain ⟨k, w₁, hsink, hready⟩ := orShared_readies h hw.hasSinks
  have hd : w₁.Delivers := hready.observed.steady.delivers hw.delivers
  obtain ⟨w₂, hrecord, hadds⟩ := record_adds hd hready.made name labels
  have hretains : Retains w₁ w₂ := fun l hl => hadds.sharedSink.trans hl
  have ho : Observed w w₂ := trans_of Observed hready.observed hadds.observed
  refine ⟨k, w₂, ?_, ⟨ho.steady.delivers hw.delivers, hadds.hasSinks hready.hasSinks⟩, ho.outside,
    fun l hl => hretains l (hready.retains l hl), ?_, ?_, fun l => ?_⟩
  · rw [count, bind_of_ok hsink]
    exact hrecord
  · exact hready.uses.imp id fun h => ⟨h.1, hretains k h.2⟩
  · rw [hadds.sightings, hready.sightings]
  · rw [← hready.sightings]
    exact hadds.elsewhere l

end Sink

end ResilientCalls
