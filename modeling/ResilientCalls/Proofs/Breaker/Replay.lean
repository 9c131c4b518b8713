import ResilientCalls.Proofs.Breaker.Records
import ResilientCalls.Proofs.Breaker.Registry

namespace ResilientCalls

open Effect World

variable {σ : Type}

/-- The state that a record tells of a key. -/
def Metric.stateOf? (key : String) (m : Metric) : Option Json :=
  match m.labels with
  | .object labels =>
    if (Json.get? "key" labels).any (·.equals (.text key)) then Json.get? "state" labels else none
  | _ => none

namespace Ledger

/-- The states that a counter recorded of a key, oldest first. -/
def states (l : Ledger) (counter key : String) : List Json :=
  (l.find (.text counter)).filterMap (·.stateOf? key)

theorem states_append {l l' : Ledger} {ms : List Metric} (h : l'.metrics = l.metrics ++ ms)
    (counter key : String) :
    l'.states counter key = l.states counter key ++ states ⟨ms, []⟩ counter key := by
  simp [states, find, h]

theorem states_cons_phaseMetric (name key : String) (phase : Breaker.Phase) (ms : List Metric)
    (counter : String) :
    states ⟨Breaker.phaseMetric name (.text key) phase :: ms, []⟩ counter key =
      (if name = counter then [.text phase.name] else []) ++ states ⟨ms, []⟩ counter key := by
  by_cases h : name = counter <;>
  simp [states, find, Breaker.phaseMetric, Json.equals, Metric.stateOf?, Json.get?, h]

end Ledger

namespace Breaker

/-- A phase as it is recorded. -/
def Phase.label (p : Phase) : Json := .text p.name

theorem states_transitions (ns : List Notice) (key : String) :
    Ledger.states ⟨ns.filterMap (Notice.metric? (.text key)), []⟩ transitionMetric key =
      (ns.filterMap Notice.entered?).map Phase.label := by
  have hne : blockedMetric ≠ transitionMetric := by decide
  induction ns with
  | nil => rfl
  | cons n rest ih =>
    cases n <;> simp [List.filterMap_cons, Notice.metric?, Notice.entered?,
      Ledger.states_cons_phaseMetric, hne, ih, Phase.label]

theorem states_refusals (ns : List Notice) (key : String) :
    Ledger.states ⟨ns.filterMap (Notice.metric? (.text key)), []⟩ blockedMetric key =
      (ns.filterMap Notice.refusedIn?).map Phase.label := by
  have hne : transitionMetric ≠ blockedMetric := by decide
  induction ns with
  | nil => rfl
  | cons n rest ih =>
    cases n <;> simp [List.filterMap_cons, Notice.metric?, Notice.refusedIn?,
      Ledger.states_cons_phaseMetric, hne, ih, Phase.label]

variable {τ : Type}

/-- The changes of phase that a use can make. -/
inductive Edge : Use τ → Phase → Phase → Prop where
  | opens : Edge .fail .closed .opened
  | probes : Edge .enter .opened .halfOpen
  | closes : Edge .succeed .halfOpen .closed
  | reopens : Edge .fail .halfOpen .opened
  | resetOpened : Edge .reset .opened .closed
  | resetHalfOpen : Edge .reset .halfOpen .closed

/-- Uses that lead from a phase through others to a last one, each by one edge or by none. -/
inductive Walk : List (Use τ) → Phase → List Phase → Phase → Prop where
  | nil (p : Phase) : Walk [] p [] p
  | stay {u : Use τ} {us : List (Use τ)} {p q : Phase} {path : List Phase} :
      Walk us p path q → Walk (u :: us) p path q
  | step {u : Use τ} {us : List (Use τ)} {p p' q : Phase} {path : List Phase} :
      Edge u p p' → Walk us p' path q → Walk (u :: us) p (p' :: path) q

theorem Walk.getLast? {us : List (Use τ)} {p q : Phase} {path : List Phase}
    (h : Walk us p path q) : path.getLast?.getD p = q := by
  induction h with
  | nil p => rfl
  | stay _ ih => exact ih
  | step _ _ ih => rw [List.getLast?_cons, Option.getD_some, ih]

namespace Recovering

def sink : Sink := ⟨0, .memory⟩

def initial : World Number Unit :=
  { World.start 0 () with ledgers := [.empty], sharedSink := some sink }

/-- A failure, a refusal, a probe that fails a second later, and a reset. -/
def uses : List (Use Number) := [.fail, .check, .pass 1, .enter, .fail, .reset]

end Recovering

variable [Clock τ]

namespace Change

variable {now : τ} {k : Config} {s s' : State τ} {u : Use τ}

/-- A change of phase is along an edge, and is counted. -/
theorem edge (hc : Change now k s u s') :
    (s'.phase = s.phase ∧ s'.transitions = s.transitions) ∨
      (Edge u s.phase s'.phase ∧ s'.phase ≠ s.phase ∧ s'.transitions = s.transitions + 1) := by
  cases hc with
  | probed _ _ hp _ => exact Or.inr (by simp [hp, Edge.probes])
  | recovered _ hp => exact Or.inr (by simp [hp, Edge.closes])
  | tripped _ hp _ => exact Or.inr (by simp [hp, Edge.opens])
  | relapsed _ hp => exact Or.inr (by simp [hp, Edge.reopens])
  | resetOther hp =>
    cases hphase : s.phase with
    | closed => exact absurd hphase hp
    | opened => exact Or.inr ⟨.resetOpened, by simp, rfl⟩
    | halfOpen => exact Or.inr ⟨.resetHalfOpen, by simp, rfl⟩
  | checked | passed _ | configured _ | stayed _ | joined _ _ _ | freedNothing _ | freed _
  | successIgnored _ | cleared _ _ | failureIgnored _ | counted _ _ _ | resetClosed _ =>
    exact Or.inl ⟨rfl, rfl⟩

theorem transitions_eq (hc : Change now k s u s') :
    s'.transitions = s.transitions + (s.entered s').length := by
  rcases hc.edge with ⟨hp, ht⟩ | ⟨-, hne, ht⟩
  · simp [State.entered, hp, ht]
  · simp [State.entered, hne, ht]

theorem walk (hc : Change now k s u s') {us : List (Use τ)} {path : List Phase} {q : Phase}
    (h : Walk us s'.phase path q) : Walk (u :: us) s.phase (s.entered s' ++ path) q := by
  rcases hc.edge with ⟨hp, -⟩ | ⟨he, hne, -⟩
  · rw [hp] at h
    simpa [State.entered, hp] using Walk.stay h
  · simpa [State.entered, hne] using Walk.step he h

end Change

namespace Session

/-- The phases in which uses are refused, in order. -/
def refusals (h : Session τ σ) : List (Use τ) → List Phase
  | [] => []
  | u :: us => (h.refusal? u).toList ++ (h.perform u).refusals us

theorem Turn.key {now : τ} {c c' : Cell τ} {ts ts' : List Ticket} {u : Use τ} {key : String}
    (ht : Turn now c ts u c' ts') (hk : c.config.key = .text key) : c'.config.key = .text key := by
  cases ht with
  | configured k heq =>
    rw [hk] at heq
    exact Json.eq_text_of_equals heq
  | _ => exact hk

theorem run_replayed {s : Sink} {key : String} {h : Session Number σ} {c : Cell Number}
    (hs : h.world.CountsIn s) (hc : h.cell? = some c) (hk : c.config.key = .text key)
    (us : List (Use Number)) :
    ∃ c' path, (h.run us).cell? = some c' ∧ Walk us c.state.phase path c'.state.phase ∧
      c'.state.transitions = c.state.transitions + path.length ∧
      ((h.run us).world.ledger s).states transitionMetric key =
        (h.world.ledger s).states transitionMetric key ++ path.map Phase.label ∧
      ((h.run us).world.ledger s).states blockedMetric key =
        (h.world.ledger s).states blockedMetric key ++ (h.refusals us).map Phase.label := by
  -- on the uses, so that a path begins with what the first one made the breaker enter
  induction us generalizing h c with
  | nil => exact ⟨c, [], hc, .nil _, rfl, (List.append_nil _).symm, (List.append_nil _).symm⟩
  | cons u us ih =>
    obtain ⟨c₁, ns, hc₁, ht, hrec⟩ := recorded_of_perform hs hc u
    have hchange := Change.of_turn ht
    have hmetrics := hrec.told.metrics
    rw [hk] at hmetrics
    obtain ⟨c', path, hc', hwalk, hcount, hmoved, hblocked⟩ :=
      ih hrec.told.countsIn hc₁ (ht.key hk)
    refine ⟨c', c.state.entered c₁.state ++ path, hc', hchange.walk hwalk, ?_, ?_, ?_⟩
    · rw [hcount, hchange.transitions_eq, List.length_append, Nat.add_assoc]
    · show (((h.perform u).run us).world.ledger s).states transitionMetric key = _
      rw [hmoved, Ledger.states_append hmetrics, states_transitions, hrec.entered,
        List.map_append, List.append_assoc]
    · show (((h.perform u).run us).world.ledger s).states blockedMetric key = _
      rw [hblocked, Ledger.states_append hmetrics, states_refusals, hrec.refused, refusals,
        List.map_append, List.append_assoc]

/-- While metrics are kept in memory, the transitions recorded of a new breaker's key are the phases
that it goes through from being closed, along the edges that its uses have: there are as many as its
state counts, and the last one is the phase that it is in. A refusal is recorded once, with the
phase in which the breaker refused, and nothing else is recorded as one. -/
theorem transitions_replayed {w : World Number σ} {s : Sink} (hs : w.CountsIn s) {config : Config}
    {key : String} (hk : config.key = .text key) (us : List (Use Number)) :
    let h := start w config
    ∃ c path, (h.run us).cell? = some c ∧
      ((h.run us).world.ledger s).states transitionMetric key =
        (w.ledger s).states transitionMetric key ++ path.map Phase.label ∧
      Walk us .closed path c.state.phase ∧ path.length = c.state.transitions ∧
      path.getLast?.getD .closed = c.state.phase ∧
      ((h.run us).world.ledger s).states blockedMetric key =
        (w.ledger s).states blockedMetric key ++ (h.refusals us).map Phase.label := by
  intro h
  have hstart : h.world.CountsIn s := ⟨hs.shared, hs.memory, hs.made⟩
  obtain ⟨c, path, hc, hwalk, hcount, hmoved, hblocked⟩ :=
    run_replayed hstart (cell?_start w config) hk us
  refine ⟨c, path, hc, hmoved, hwalk, ?_, hwalk.getLast?, hblocked⟩
  rw [hcount]
  exact (Nat.zero_add _).symm

open Recovering in
/-- A breaker that is open twice before it is reset goes through four phases. -/
theorem transitions_replayed_recovering :
    initial.CountsIn sink ∧ Config.brittle.key = .text "summarizer:model" ∧
    ∃ c path, ((start initial .brittle).run uses).cell? = some c ∧
      path.map Phase.name = ["open", "half_open", "open", "closed"] ∧
      Walk uses .closed path c.state.phase ∧ path.length = c.state.transitions ∧
      (start initial .brittle).refusals uses = [.opened] := by
  have hs : initial.CountsIn sink := ⟨rfl, rfl, by decide⟩
  have hk : Config.brittle.key = .text "summarizer:model" := rfl
  obtain ⟨c, path, hc, hmoved, hwalk, hcount, -, -⟩ := transitions_replayed hs hk uses
  have hseen :
      ((((start initial .brittle).run uses).world.ledger sink).states transitionMetric
          "summarizer:model").map Json.plain =
        ["open", "half_open", "open", "closed"] := by decide +kernel
  have hnames : (path.map Phase.label).map Json.plain = path.map Phase.name := by
    rw [List.map_map]
    rfl
  rw [hmoved, List.map_append, hnames] at hseen
  exact ⟨hs, hk, c, path, hc, hseen, hwalk, hcount, by decide +kernel⟩

end Session

end Breaker

end ResilientCalls
