import ResilientCalls.Proofs.Service.Fallback
import ResilientCalls.Proofs.Sightings

namespace ResilientCalls

open Effect World

variable {τ σ α β : Type}

/-- One count, by the name of its metric. -/
structure Count where
  name : String
  labels : List (String × Json)

/-- Does a sighting show a change of a breaker, or a call that it refused? -/
def Sighting.OfBreakers (x : Sighting) : Prop :=
  x.metric = .text Breaker.transitionMetric ∨ x.metric = .text Breaker.blockedMetric

namespace Journal

/-- What a call itself is not the author of, and when its attempts began. -/
inductive Passage (τ σ : Type) where
  | began
  | replied (before after : World τ σ)
  | waited (before after : World τ σ) (e : Ending)

/-- What a sink shows after something that it did not show before. -/
def gained (k : Sink) (before after : World τ σ) : List Sighting :=
  (after.sightings .count k).drop (before.sightings .count k).length

namespace Passage

def shown (k : Sink) : Passage τ σ → List Sighting
  | began => []
  | replied before after => gained k before after
  | waited before after _ => gained k before after

def isBegan : Passage τ σ → Bool
  | began => true
  | _ => false

/-- Is it a wait that did not return? -/
def isRaised : Passage τ σ → Bool
  | waited _ _ .returned => false
  | waited .. => true
  | _ => false

end Passage

/-- An item of a call's history. -/
inductive Entry (τ σ : Type) where
  | counted (c : Count)
  | aside (x : Sighting) (h : x.OfBreakers)
  | passed (p : Passage τ σ)

namespace Entry

/-- What a sink shows of it. -/
def shown (k : Sink) : Entry τ σ → List Sighting
  | counted c => [k.showingCount c.name c.labels]
  | aside x _ => [x]
  | passed p => p.shown k

def count? : Entry τ σ → Option Count
  | counted c => some c
  | _ => none

def passage? : Entry τ σ → Option (Passage τ σ)
  | passed p => some p
  | _ => none

def IsAside : Entry τ σ → Prop
  | aside .. => True
  | _ => False

end Entry

/-- What a call counted itself, in order. -/
def counts (es : List (Entry τ σ)) : List Count := es.filterMap Entry.count?

/-- What is noted of a history. -/
def passages (es : List (Entry τ σ)) : List (Passage τ σ) := es.filterMap Entry.passage?

theorem counts_append (es fs : List (Entry τ σ)) : counts (es ++ fs) = counts es ++ counts fs :=
  List.filterMap_append

theorem passages_append (es fs : List (Entry τ σ)) :
    passages (es ++ fs) = passages es ++ passages fs := List.filterMap_append

variable {s : Option Sink} {P Q : List (Entry τ σ) → Prop}
  {w w' w'' : Noted (Passage τ σ) τ σ}

/-- Between two worlds there is a history of which `P` holds: its passages are what was noted, and
whichever sink is used shows it. -/
def Recorded (s : Option Sink) (P : List (Entry τ σ) → Prop) (w w' : Noted (Passage τ σ) τ σ) :
    Prop :=
  w.Fit s → w'.Fit s ∧ Retains w w' ∧ ∀ k, w'.UsesOnly s k → ∃ es : List (Entry τ σ),
    w'.outside.1 = w.outside.1 ++ passages es ∧
    w'.sightings .count k = w.sightings .count k ++ es.flatMap (Entry.shown k) ∧ P es

theorem Recorded.mono (h : Recorded s P w w') (hPQ : ∀ es, P es → Q es) : Recorded s Q w w' := by
  intro hw
  obtain ⟨hw', hr, hes⟩ := h hw
  refine ⟨hw', hr, fun k hk => ?_⟩
  obtain ⟨es, hpassages, hshown, hp⟩ := hes k hk
  exact ⟨es, hpassages, hshown, hPQ es hp⟩

theorem Recorded.trans (h : Recorded s P w w')
    (h' : ∀ es, P es → Recorded s (fun fs => Q (es ++ fs)) w' w'') : Recorded s Q w w'' := by
  intro hw
  obtain ⟨hw', hr, hes⟩ := h hw
  obtain ⟨k₀, hk₀⟩ := w'.exists_usesOnly s
  obtain ⟨es₀, -, -, hp₀⟩ := hes k₀ hk₀
  obtain ⟨hw'', hr', -⟩ := h' es₀ hp₀ hw'
  refine ⟨hw'', fun l hl => hr' l (hr l hl), fun k hk => ?_⟩
  -- a sink that is used at the end was the only one to be used before
  obtain ⟨es, hpassages, hshown, hp⟩ := hes k (hk.of_retains hr')
  obtain ⟨fs, hpassages', hshown', hq⟩ := (h' es hp hw').2.2 k hk
  refine ⟨es ++ fs, ?_, ?_, hq⟩
  · rw [hpassages', hpassages, passages_append, List.append_assoc]
  · rw [hshown', hshown, List.flatMap_append, List.append_assoc]

theorem recorded_nil (hfit : w.Fit s → w'.Fit s) (hr : Retains w w')
    (ho : w'.outside.1 = w.outside.1)
    (hs : ∀ k, w'.sightings .count k = w.sightings .count k) (hp : P []) : Recorded s P w w' :=
  fun hw => ⟨hfit hw, hr, fun k _ => ⟨[], by simp [ho, passages], by simp [hs], hp⟩⟩

theorem recorded_refl (s : Option Sink) (w : Noted (Passage τ σ) τ σ) (hp : P []) :
    Recorded s P w w := recorded_nil id (fun _ => id) rfl (fun _ => rfl) hp

/-- A history between two worlds has entries of one sort only. -/
def Through (s : Option Sink) (E : Entry τ σ → Prop) (w w' : Noted (Passage τ σ) τ σ) : Prop :=
  Recorded s (fun es => ∀ e ∈ es, E e) w w'

instance (s : Option Sink) (E : Entry τ σ → Prop) : Std.Refl (Through s E) :=
  ⟨fun w => recorded_refl s w (by simp)⟩

instance (s : Option Sink) (E : Entry τ σ → Prop) :
    IsTrans (Noted (Passage τ σ) τ σ) (Through s E) := by
  refine ⟨fun _ _ _ h h' => Recorded.trans h fun es hes => h'.mono fun fs hfs e he => ?_⟩
  rcases List.mem_append.1 he with he | he
  · exact hes e he
  · exact hfs e he

/-- Breakers may have been counted, and nothing else. -/
abbrev Hushed (s : Option Sink) : Noted (Passage τ σ) τ σ → Noted (Passage τ σ) τ σ → Prop :=
  Through s Entry.IsAside

theorem hushed_addLog (s : Option Sink) {r : LogRecord} (hr : r.event ≠ "metric")
    (w : Noted (Passage τ σ) τ σ) : Hushed s w (w.addLog r) :=
  recorded_nil (fun h => ⟨h.delivers, h.hasSinks⟩) (fun _ => id) rfl
    (fun _ => sightings_addLog hr) (by simp)

theorem hushed_logged (s : Option Sink) {r : LogRecord} (hr : r.event ≠ "metric") :
    Moves (Hushed (τ := τ) (σ := σ) s) (Run.logged r) := Moves.modify fun w => hushed_addLog s hr w

theorem hushed_inject (s : Option Sink) (h : Fault.Harness) (identifier : String) :
    Moves (Hushed (τ := τ) (σ := σ) s) (h.inject identifier) := by
  refine Moves.bind Moves.get fun w => ?_
  split
  · exact Moves.bind (hushed_logged s (by simp [Fault.injectingRecord])) fun _ => Moves.stop _
  · exact Moves.pure _

theorem hushed_setState (s : Option Sink) (w : Noted (Passage τ σ) τ σ) (b : Breaker.Id)
    (state : Breaker.State τ) :
    Hushed s w { w with registry := w.registry.setState b state } :=
  recorded_nil (fun h => ⟨h.delivers, h.hasSinks⟩) (fun _ => id) rfl (fun _ => rfl) (by simp)

/-- What breakers count is counted at the shared sink, and shown elsewhere if at all. -/
theorem hushed_count (s : Option Sink) {name : String}
    (hname : name = Breaker.transitionMetric ∨ name = Breaker.blockedMetric)
    (labels : List (String × Json)) :
    Moves (Hushed (τ := τ) (σ := σ) s) (Sink.count none name labels) := by
  intro w hw
  obtain ⟨k, w', hcount, h⟩ := Sink.count_counts (Or.inl rfl) hw name labels
  rw [hcount]
  refine ⟨h.fit, h.retains, fun l _ => ?_⟩
  have hof : (k.showingCount name labels).OfBreakers := by
    unfold Sighting.OfBreakers
    rw [Sink.metric_showingCount]
    exact hname.imp (congrArg _) (congrArg _)
  -- the sink in use need not be the one at which breakers are counted
  rcases h.elsewhere l with hl | hl
  · exact ⟨[], by simp [h.outside, passages], by simp [hl], by simp⟩
  · refine ⟨[.aside _ hof], ?_, ?_, ?_⟩
    · simp [h.outside, passages, Entry.passage?]
    · simp [hl, Entry.shown]
    · simp [Entry.IsAside]

section Breakers

variable {b : Breaker.Id}

theorem hushed_announce (s : Option Sink) (c : Breaker.Cell τ) (n : Breaker.Notice) :
    Moves (Hushed (σ := σ) s) (Breaker.announce c n) := by
  cases n with
  | moved before after =>
    refine Moves.bind (hushed_count s (Or.inl rfl) _) fun _ => ?_
    exact hushed_logged s (by simp [Breaker.Cell.logRecord])
  | blocked phase ms =>
    refine Moves.bind (hushed_count s (Or.inr rfl) _) fun _ => ?_
    exact hushed_logged s (by simp [Breaker.Cell.logRecord])
  | reset => exact hushed_logged s (by simp [Breaker.Cell.logRecord])

theorem hushed_announceAll (s : Option Sink) (c : Breaker.Cell τ) (ns : List Breaker.Notice) :
    Moves (Hushed (σ := σ) s) (Breaker.announceAll c ns) := by
  induction ns with
  | nil => exact Moves.pure _
  | cons n rest ih => exact Moves.bind (hushed_announce s c n) fun _ => ih

theorem hushed_advance (s : Option Sink) (b : Breaker.Id)
    (step : Breaker.State τ → Breaker.Config → τ → Breaker.State τ × List Breaker.Notice) :
    Moves (Hushed (σ := σ) s) (Breaker.advance b step) := by
  refine Moves.bind Moves.get fun w => ?_
  split
  · exact Moves.pure _
  · exact Moves.bind (Moves.modify fun w => hushed_setState s w b _) fun _ =>
      hushed_announceAll s _ _

theorem hushed_take (s : Option Sink) (b : Breaker.Id) :
    Moves (Hushed (τ := τ) (σ := σ) s) (Breaker.take b) := by
  refine Moves.bind Moves.get fun w => ?_
  split
  · exact Moves.pure _
  · exact Moves.bind (Moves.modify fun w => hushed_setState s w b _) fun _ => Moves.pure _

theorem hushed_release (s : Option Sink) (b : Breaker.Id) (t : Breaker.Ticket) :
    Moves (Hushed (τ := τ) (σ := σ) s) (Breaker.release b t) := by
  refine Moves.bind Moves.get fun w => ?_
  split
  · exact Moves.pure _
  · exact Moves.bind (Moves.modify fun w => hushed_setState s w b _) fun _ => Moves.pure _

variable [Clock τ]

theorem hushed_check (s : Option Sink) (b : Breaker.Id) :
    Moves (Hushed (τ := τ) (σ := σ) s) (Breaker.check b) := by
  refine Moves.bind Moves.get fun w => ?_
  split
  · exact Moves.pure _
  · refine Moves.bind (Moves.ofExcept _) fun v => ?_
    split
    · exact Moves.pure _
    · exact Moves.bind (hushed_announce s _ _) fun _ => Moves.fail _

theorem hushed_enter (s : Option Sink) (b : Breaker.Id) :
    Moves (Hushed (τ := τ) (σ := σ) s) (Breaker.enter b) := by
  refine Moves.bind Moves.get fun _ => ?_
  split
  · exact Moves.pure _
  · split
    · exact Moves.pure _
    · refine Moves.bind (hushed_check s b) fun _ => ?_
      exact Moves.bind (hushed_advance s b _) fun _ => hushed_take s b

end Breakers

/-- What a computation adds to the history is as `Q` says of the way in which it ends. -/
def Records (s : Option Sink) (x : Run τ (List (Passage τ σ) × σ) α)
    (Q : Except Stop α → List (Entry τ σ) → Prop) : Prop :=
  ∀ w, Recorded s (Q (x w).1) w (x w).2

namespace Records

variable {x : Run τ (List (Passage τ σ) × σ) α} {Q P : Except Stop α → List (Entry τ σ) → Prop}

theorem mono (hx : Records s x Q) (h : ∀ r es, Q r es → P r es) : Records s x P :=
  fun w => (hx w).mono (h _)

theorem conclude (r : Except Stop α) (h : Q r []) :
    Records s (Effect.conclude r : Run τ (List (Passage τ σ) × σ) α) Q := by
  intro w
  rw [conclude_apply]
  exact recorded_refl s w h

theorem bind {f : α → Run τ (List (Passage τ σ) × σ) β}
    {P : Except Stop β → List (Entry τ σ) → Prop} (hx : Records s x Q)
    (hf : ∀ a es, Q (.ok a) es → Records s (f a) fun r fs => P r (es ++ fs))
    (he : ∀ e es, Q (.error e) es → P (.error e) es) : Records s (x >>= f) P := by
  intro w
  have hq := hx w
  cases h : x w with
  | mk r w' =>
    rw [h] at hq
    cases r with
    | ok a =>
      rw [bind_of_ok h]
      exact hq.trans fun es hes => hf a es hes w'
    | error e =>
      rw [bind_of_error h]
      exact hq.mono (he e)

theorem ending_bind {f : Except Stop α → Run τ (List (Passage τ σ) × σ) β}
    {P : Except Stop β → List (Entry τ σ) → Prop} (hx : Records s x Q)
    (hf : ∀ r es, Q r es → Records s (f r) fun q fs => P q (es ++ fs)) :
    Records s (Effect.ending x >>= f) P := by
  intro w
  rw [ending_bind_apply]
  exact (hx w).trans fun es hes => hf _ es hes _

theorem silent_bind {y : Run τ (List (Passage τ σ) × σ) Unit}
    (hy : Records s y fun r es => r = .ok () ∧ es = [])
    {f : Unit → Run τ (List (Passage τ σ) × σ) α} (hf : Records s (f ()) Q) :
    Records s (y >>= f) Q := by
  refine bind hy (fun _ es hes => ?_) fun e es hes => ?_
  · rw [hes.2]
    exact hf
  · cases hes.1

end Records

theorem records_logged (s : Option Sink) {l : LogRecord} (hl : l.event ≠ "metric") :
    Records s (Run.logged l : Run τ (List (Passage τ σ) × σ) Unit) fun r es =>
      r = .ok () ∧ es = [] := fun _ =>
  recorded_nil (fun h => ⟨h.delivers, h.hasSinks⟩) (fun _ => id) rfl
    (fun _ => sightings_addLog hl) ⟨rfl, rfl⟩

/-- A checkpoint is passed in silence, also when its fault is injected. -/
theorem records_checkpoint (s : Option Sink) (v : Service) (stage : String) :
    Records s (v.checkpoint stage : Run τ (List (Passage τ σ) × σ) Unit) fun r es =>
      es = [] ∧ (r = .ok () ∨ r = .error (.failed (v.fault stage))) := by
  intro w
  cases h : v.isFaulty w stage with
  | false =>
    rw [Service.checkpoint_of_quiet h]
    exact recorded_refl s w ⟨rfl, Or.inl rfl⟩
  | true =>
    have hfaulted : v.checkpoint stage w = (.error (.failed (v.fault stage)),
        w.addLog (Fault.injectingRecord (.text (v.task.name ++ "." ++ stage)))) := by
      unfold Service.isFaulty at h
      unfold Service.checkpoint Fault.Harness.inject Fault.Harness.injectAs
      rw [get_bind_apply, h]
      rfl
    rw [hfaulted]
    exact recorded_nil (fun h => ⟨h.delivers, h.hasSinks⟩) (fun _ => id) rfl
      (fun _ => sightings_addLog (by simp [Fault.injectingRecord, Kind.event])) ⟨rfl, Or.inr rfl⟩

theorem records_count (s : Option Sink) (name : String) (labels : List (String × Json)) :
    Records s (Sink.count s name labels : Run τ (List (Passage τ σ) × σ) Unit) fun r es =>
      r = .ok () ∧ es = [.counted ⟨name, labels⟩] := by
  intro w hw
  obtain ⟨k, w', hcount, h⟩ := Sink.count_counts (Or.inr rfl) hw name labels
  rw [hcount]
  refine ⟨h.fit, h.retains, fun l hl => ⟨[.counted ⟨name, labels⟩], ?_, ?_, rfl, rfl⟩⟩
  · simp [h.outside, passages, Entry.passage?]
  · obtain rfl := hl k h.uses
    simp [h.sightings, Entry.shown]

namespace History

/-- A computation of the world outside, with what it is to be noted as. -/
def spanning (passage : World τ σ → World τ σ → Ending → Passage τ σ) (x : Run τ σ α) :
    Run τ (List (Passage τ σ) × σ) α := do
  let before ← Effect.get
  let r ← Effect.ending (blind x)
  let after ← Effect.get
  note (passage (without before) (without after) (.of r))
  Effect.conclude r

theorem spanning_apply (passage : World τ σ → World τ σ → Ending → Passage τ σ) (x : Run τ σ α)
    (w : Noted (Passage τ σ) τ σ) : spanning passage x w = ((x (without w)).1,
      withJournal (w.outside.1 ++
        [passage (without w) (x (without w)).2 (.of (x (without w)).1)]) (x (without w)).2) := by
  rw [spanning, get_bind_apply, ending_bind_apply, get_bind_apply]
  show (Effect.conclude (x (without w)).1) _ = _
  rw [conclude_apply]
  rfl

theorem mirrors_spanning (passage : World τ σ → World τ σ → Ending → Passage τ σ) (x : Run τ σ α) :
    Mirrors Prod.snd (spanning passage x) x := by
  intro w
  rw [spanning_apply]
  rfl

/-- What goes on outside is one passage, which has shown whatever was counted in it. -/
theorem records_spanning {passage : World τ σ → World τ σ → Ending → Passage τ σ}
    (hpassage : ∀ k before after e, (passage before after e).shown k = gained k before after)
    {x : Run τ σ α} (hx : Moves (Grows s) x) :
    Records s (spanning passage x) fun r es =>
      ∃ before after, es = [.passed (passage before after (.of r))] := by
  intro w hw
  rw [spanning_apply]
  obtain ⟨hfit, hretains, hgrown⟩ := hx (without w) ⟨hw.delivers, hw.hasSinks⟩
  refine ⟨⟨hfit.delivers, hfit.hasSinks⟩, hretains, fun k _ =>
    ⟨_, ?_, ?_, without w, (x (without w)).2, rfl⟩⟩
  · rfl
  · have hafter := List.prefix_iff_eq_append.1 (hgrown k)
    simp only [List.flatMap_cons, List.flatMap_nil, List.append_nil, Entry.shown, hpassage, gained]
    exact hafter.symm

/-- A provider whose replies are passages. -/
def provider (p : Provider τ σ) : Provider τ (List (Passage τ σ) × σ) where
  name := p.name
  generate system user json :=
    spanning (fun before after _ => .replied before after) (p.generate system user json)
  translate b := spanning (fun before after _ => .replied before after) (p.translate b)

def waiting (wait : Binary64 → Run τ σ Unit) (d : Binary64) :
    Run τ (List (Passage τ σ) × σ) Unit := spanning .waited (wait d)

/-- A guard of whose calls it is noted when they begin. -/
def guard (g : Breaker.Guard (Noted (Passage τ σ) τ σ)) :
    Breaker.Guard (Noted (Passage τ σ) τ σ) where
  check := g.check
  enter := do
    note .began
    g.enter
  succeed := g.succeed
  fail := g.fail
  release := g.release

theorem follow_guard {g : Breaker.Guard (Noted (Passage τ σ) τ σ)} {h : Breaker.Guard (World τ σ)}
    (hg : g.Follow (World.mapOutside Prod.snd) h) :
    (guard g).Follow (World.mapOutside Prod.snd) h where
  check := hg.check
  enter := mirrors_note hg.enter
  succeed := hg.succeed
  fail := hg.fail
  release := hg.release

theorem mirror_provider (p : Provider τ σ) : (provider p).Mirror Prod.snd p where
  name := rfl
  generate _ _ _ := mirrors_spanning _ _
  translate _ := mirrors_spanning _ _

theorem mirrors_waiting (wait : Binary64 → Run τ σ Unit) (d : Binary64) :
    Mirrors Prod.snd (waiting wait d) (wait d) := mirrors_spanning _ (wait d)

end History

end Journal

end ResilientCalls
