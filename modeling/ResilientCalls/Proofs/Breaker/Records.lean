import ResilientCalls.Proofs.Breaker.Changes

namespace ResilientCalls

open Effect World

variable {τ σ : Type}

/-- The shared sink is one that has been made, and keeps its metrics in memory. -/
structure World.CountsIn (s : Sink) (w : World τ σ) : Prop where
  shared : w.sharedSink = some s
  memory : s.backend = .memory
  made : s.number < w.ledgers.length

namespace Sink

variable {s : Sink} {w : World τ σ}

theorem count_of_countsIn (hs : w.CountsIn s) (name : String) (labels : List (String × Json)) :
    count none name labels w =
      (.ok (), w.modifyLedger s (·.add ⟨.text name, .int 1, .object labels⟩)) := by
  have hshared : (orShared none : Run τ σ Sink) w = (.ok s, w) := by
    simp only [orShared, shared, get_bind_apply, hs.shared, pure_apply]
  rw [count, bind_of_ok hshared, record, hs.memory]
  simp only [Metric.kept, Metric.givenLabels_object, Json.dictionary]
  rfl

end Sink

namespace Breaker

/-- The phase that was entered, if one was. -/
def Notice.entered? : Notice → Option Phase
  | moved _ after => some after
  | _ => none

/-- The phase of a refusal, if there was one. -/
def Notice.refusedIn? : Notice → Option Phase
  | blocked phase _ => some phase
  | _ => none

/-- The record of a phase that a counter of breakers makes. -/
def phaseMetric (counter : String) (key : Json) (phase : Phase) : Metric :=
  ⟨.text counter, .int 1, .object [("key", key), ("state", .text phase.name)]⟩

/-- What is recorded of a notice. -/
def Notice.metric? (key : Json) : Notice → Option Metric
  | moved _ after => some (phaseMetric transitionMetric key after)
  | blocked phase _ => some (phaseMetric blockedMetric key phase)
  | reset => none

/-- A world and a later one in whose ledger notices of a key were recorded in between. -/
structure Told (s : Sink) (key : Json) (ns : List Notice) (w w' : World τ σ) : Prop where
  countsIn : w'.CountsIn s
  metrics : (w'.ledger s).metrics =
    (w.ledger s).metrics ++ ns.filterMap (Notice.metric? key)

namespace Told

variable {s : Sink} {key : Json} {ns ns' : List Notice} {w w' w'' : World τ σ}

theorem refl (hs : w.CountsIn s) (key : Json) : Told s key [] w w :=
  ⟨hs, (List.append_nil _).symm⟩

theorem trans (h : Told s key ns w w') (h' : Told s key ns' w' w'') :
    Told s key (ns ++ ns') w w'' := by
  refine ⟨h'.countsIn, ?_⟩
  rw [h'.metrics, h.metrics, List.filterMap_append, List.append_assoc]

theorem keeps (h : Told s key ns w w') (hshared : w''.sharedSink = w'.sharedSink)
    (hledgers : w''.ledgers = w'.ledgers) : Told s key ns w w'' := by
  have hs := h.countsIn
  refine ⟨⟨hshared.trans hs.shared, hs.memory, by rw [hledgers]; exact hs.made⟩, ?_⟩
  rw [← h.metrics, ledger, hledgers]
  rfl

theorem phase (hs : w.CountsIn s) {n : Notice} {counter : String} {p : Phase}
    (hn : n.metric? key = some (phaseMetric counter key p)) :
    Told s key [n] w (w.modifyLedger s (·.add (phaseMetric counter key p))) := by
  refine ⟨⟨hs.shared, hs.memory, ?_⟩, ?_⟩
  · rw [modifyLedger, List.length_modify]
    exact hs.made
  · rw [ledger_modifyLedger hs.made, List.filterMap_cons, hn]
    rfl

end Told

section Announcing

variable {s : Sink} {w : World τ σ} {id : Id} {c : Cell τ}

theorem told_announce (hs : w.CountsIn s) (c : Cell τ) (n : Notice) :
    ∃ w', announce c n w = (.ok (), w') ∧ Told s c.config.key [n] w w' := by
  cases n with
  | moved before after =>
    refine ⟨_, bind_of_ok (Sink.count_of_countsIn hs _ _) _, ?_⟩
    exact Told.keeps (.phase hs rfl) rfl rfl
  | blocked phase ms =>
    refine ⟨_, bind_of_ok (Sink.count_of_countsIn hs _ _) _, ?_⟩
    exact Told.keeps (.phase hs rfl) rfl rfl
  | reset => exact ⟨_, rfl, ⟨⟨hs.shared, hs.memory, hs.made⟩, (List.append_nil _).symm⟩⟩

theorem told_announceAll (hs : w.CountsIn s) (c : Cell τ) (ns : List Notice) :
    ∃ w', announceAll c ns w = (.ok (), w') ∧ Told s c.config.key ns w w' := by
  induction ns generalizing w with
  | nil => exact ⟨w, rfl, .refl hs _⟩
  | cons n rest ih =>
    obtain ⟨w₁, hw₁, htold⟩ := told_announce hs c n
    obtain ⟨w₂, hw₂, hrest⟩ := ih htold.countsIn
    exact ⟨w₂, (bind_of_ok hw₁ _).trans hw₂, htold.trans hrest⟩

theorem told_advance (hs : w.CountsIn s) (hc : w.registry.cell? id = some c)
    (step : State τ → Config → τ → State τ × List Notice) :
    ∃ w', advance id step w = (.ok (), w') ∧
      Told s c.config.key (step c.state c.config w.now).2 w w' := by
  simp only [advance, get_bind_apply, hc, modify_bind_apply]
  obtain ⟨w', hw', htold⟩ := told_announceAll (w := { w with
    registry := w.registry.setState id (step c.state c.config w.now).1 })
    ⟨hs.shared, hs.memory, hs.made⟩ c (step c.state c.config w.now).2
  exact ⟨w', hw', htold.countsIn, htold.metrics⟩

end Announcing

namespace State

/-- The phase that a state has entered since another one, if any. -/
def entered (s s' : State τ) : List Phase := if s'.phase = s.phase then [] else [s'.phase]

/-- A step that announces the phase that it enters, if it does, and refuses nothing. -/
structure Announces (s : State τ) (r : State τ × List Notice) : Prop where
  entered : r.2.filterMap Notice.entered? = s.entered r.1
  refused : r.2.filterMap Notice.refusedIn? = []

variable (s : State τ) (k : Config) (now : τ)

theorem announces_nothing {s s' : State τ} (hp : s'.phase = s.phase) : s.Announces (s', []) :=
  ⟨by simp [State.entered, hp], rfl⟩

theorem announces_move (phase : Phase) : s.Announces (s.move now phase) := by
  by_cases hp : s.phase = phase
  · rw [move_of_eq now hp]
    exact announces_nothing rfl
  · have hne : phase ≠ s.phase := fun h => hp h.symm
    rw [move, if_neg hp]
    exact ⟨by simp [State.entered, hne, Notice.entered?], rfl⟩

theorem announces_probe : s.Announces (s.probe now) := by
  unfold probe
  split_ifs
  · exact announces_move s now _
  · exact announces_nothing rfl

theorem announces_recordSuccess : s.Announces (s.recordSuccess k now) := by
  unfold recordSuccess
  split_ifs
  · exact announces_nothing rfl
  · split
    · exact announces_move s now _
    · exact announces_nothing rfl
    · exact announces_nothing rfl

theorem announces_recordFailure : s.Announces (s.recordFailure k now) := by
  unfold recordFailure
  split_ifs
  · exact announces_nothing rfl
  · split
    · exact announces_move s now _
    · dsimp only
      split_ifs
      · -- one more failure changes no phase, so the step announces what the move does
        have hmove := announces_move { s with failures := s.failures.next } now .opened
        exact ⟨hmove.entered, hmove.refused⟩
      · exact announces_nothing rfl
    · exact announces_nothing rfl

theorem announces_reset : s.Announces (s.reset now) := by
  have hmove := announces_move s now .closed
  refine ⟨?_, ?_⟩
  · simp only [reset, List.filterMap_append, hmove.entered]
    exact List.append_nil _
  · simp only [reset, List.filterMap_append, hmove.refused]
    rfl

end State

end Breaker

/-- Is it how a breaker refuses a call? -/
def Stop.isRefusal : Stop → Bool
  | .failed (.circuitOpen ..) => true
  | _ => false

/-- Has a computation ended in a refusal? -/
def isRefused {α : Type} : Except Stop α → Bool
  | .ok _ => false
  | .error e => e.isRefusal

@[simp]
theorem isRefused_ok {α : Type} (a : α) : isRefused (.ok a : Except Stop α) = false := rfl

@[simp]
theorem isRefused_error {α : Type} (e : Stop) :
    isRefused (.error e : Except Stop α) = e.isRefusal := rfl

theorem Clock.isRefusal_of_roundedUp {left : Number} {f : Failure}
    (h : roundedUp left = .error f) : (Stop.failed f).isRefusal = false := by
  unfold roundedUp at h
  split at h
  · cases h
  · split at h
    · cases h
    · split_ifs at h <;> cases h <;> rfl

theorem Clock.isRefusal_of_remainingMs {window opened now : Number} {f : Failure}
    (h : Clock.remainingMs window opened now = .error f) : (Stop.failed f).isRefusal = false := by
  change remainingSeconds window opened now = .error f at h
  unfold remainingSeconds at h
  extract_lets left at h
  cases hl : left with
  | none =>
    rw [hl] at h
    cases h
    rfl
  | some left =>
    rw [hl] at h
    exact isRefusal_of_roundedUp h

namespace Breaker

/-- What asking whether a call may be made comes to. -/
inductive Checked (s : Sink) (c : Cell Number) (w : World Number σ) :
    Except Stop Unit × World Number σ → Prop where
  | granted : c.state.verdict c.config w.now = .ok .granted → Checked s c w (.ok (), w)
  | refused (ms : Option Nat) (w' : World Number σ) :
      c.state.verdict c.config w.now = .ok (.refused ms) →
      Told s c.config.key [.blocked c.state.phase ms] w w' →
      Checked s c w (.error (.failed
        (.circuitOpen c.config.key c.state.phase.name (ms.map Int.ofNat))), w')
  | failed (f : Failure) : c.state.verdict c.config w.now = .error f →
      (Stop.failed f).isRefusal = false → Checked s c w (.error (.failed f), w)

theorem State.isRefusal_of_verdict {s : State Number} {k : Config} {now : Number} {f : Failure}
    (h : s.verdict k now = .error f) : (Stop.failed f).isRefusal = false := by
  cases hen : k.isEnabled with
  | false => simp [verdict, hen] at h
  | true =>
    cases hp : s.phase with
    | closed => simp [verdict, hen, hp] at h
    | halfOpen => simp [verdict, hen, hp] at h
    | opened =>
      simp only [verdict, hen, hp, Bool.not_true, Bool.false_eq_true, if_false] at h
      split at h
      · rename_i g hr
        obtain rfl := Except.error.inj h
        cases ho : s.openedAt with
        | none => simp [remainingMs, ho] at hr
        | some opened =>
          simp only [remainingMs, ho] at hr
          exact Clock.isRefusal_of_remainingMs hr
      · cases h
      · cases h

theorem checked {s : Sink} {w : World Number σ} {id : Id} {c : Cell Number} (hs : w.CountsIn s)
    (hc : w.registry.cell? id = some c) : Checked s c w (check id w) := by
  cases hv : c.state.verdict c.config w.now with
  | error f =>
    simp only [check, get_bind_apply, hc, hv, ofExcept_error, fail_bind, fail_apply]
    exact .failed f hv (State.isRefusal_of_verdict hv)
  | ok v =>
    cases v with
    | granted =>
      rw [check_granted hc hv]
      exact .granted hv
    | refused ms =>
      obtain ⟨w', hw', htold⟩ := told_announce hs c (.blocked c.state.phase ms)
      simp only [check, get_bind_apply, hc, hv, ofExcept_ok, pure_bind]
      rw [bind_of_ok hw']
      exact .refused ms w' hv htold

/-- A call that is granted is admitted, and the step to a probe is announced. -/
theorem told_enter {s : Sink} {w : World Number σ} {id : Id} {c : Cell Number} (hs : w.CountsIn s)
    (hc : w.registry.cell? id = some c) (hen : c.config.isEnabled = true)
    (hv : c.state.verdict c.config w.now = .ok .granted) :
    ∃ t w', enter id w = (.ok t, w') ∧ Told s c.config.key (c.state.probe w.now).2 w w' := by
  obtain ⟨w₁, hw₁, htold⟩ := told_advance hs hc fun s _ now => s.probe now
  have hc₁ : w₁.registry.cell? id = some { c with state := (c.state.probe w.now).1 } := by
    have hadv := cell?_advance hc fun s _ now => s.probe now
    rwa [hw₁] at hadv
  have henter : enter id w = take id w₁ := by rw [enter_of_verdict hc hen hv, bind_of_ok hw₁]
  rw [take_eq hc₁] at henter
  exact ⟨_, _, henter, htold.keeps rfl rfl⟩

namespace Session

/-- The phase in which a use is refused, if it is. -/
def refusal? [Clock τ] (h : Session τ σ) : Use τ → Option Phase
  | .check => if isRefused (Breaker.check h.id h.world).1 then h.phase? else none
  | .enter => if isRefused (Breaker.enter h.id h.world).1 then h.phase? else none
  | _ => none

/-- What a use is said to have recorded: the phase that it made the breaker enter, and the one in
which it was refused. -/
structure Recorded (s : Sink) (h : Session Number σ) (u : Use Number) (c c' : Cell Number)
    (ns : List Notice) : Prop where
  told : Told s c.config.key ns h.world (h.perform u).world
  entered : ns.filterMap Notice.entered? = c.state.entered c'.state
  refused : ns.filterMap Notice.refusedIn? = (h.refusal? u).toList

namespace Recorded

variable {s : Sink} {h : Session Number σ} {c c' : Cell Number}

theorem nothing {u : Use Number} (hs : h.world.CountsIn s)
    (hshared : (h.perform u).world.sharedSink = h.world.sharedSink)
    (hledgers : (h.perform u).world.ledgers = h.world.ledgers)
    (hp : c'.state.phase = c.state.phase) (hr : h.refusal? u = none) :
    Recorded s h u c c' [] :=
  ⟨(Told.refl hs _).keeps hshared hledgers, by simp [State.entered, hp], by simp [hr]⟩

theorem of_step {u : Use Number} (hs : h.world.CountsIn s) (hc : h.cell? = some c)
    (step : State Number → Config → Number → State Number × List Notice)
    (hu : (h.perform u).world = (advance h.id step h.world).2)
    (ha : c.state.Announces (step c.state c.config h.world.now)) (hr : h.refusal? u = none) :
    Recorded s h u c { c with state := (step c.state c.config h.world.now).1 }
      (step c.state c.config h.world.now).2 := by
  obtain ⟨w', hw', htold⟩ := told_advance hs hc step
  refine ⟨?_, ha.entered, by simp [hr, ha.refused]⟩
  rw [hu, hw']
  exact htold

theorem of_check {u : Use Number} (hs : h.world.CountsIn s) (hc : h.cell? = some c)
    (hworld : (h.perform u).world = (Breaker.check h.id h.world).2)
    (hr : h.refusal? u =
      if isRefused (Breaker.check h.id h.world).1 then h.phase? else none) :
    ∃ ns, Recorded s h u c c ns := by
  have hck : Checked s c h.world (Breaker.check h.id h.world) := checked hs hc
  generalize Breaker.check h.id h.world = r at hck hworld hr
  cases hck with
  | granted _ => exact ⟨[], .nothing hs (by rw [hworld]) (by rw [hworld]) rfl (by simp [hr])⟩
  | refused ms w' _ htold =>
    refine ⟨_, by rw [hworld]; exact htold, by simp [State.entered, Notice.entered?], ?_⟩
    simp [hr, Stop.isRefusal, phase?_of_cell? hc, Notice.refusedIn?]
  | failed f _ hf =>
    exact ⟨[], .nothing hs (by rw [hworld]) (by rw [hworld]) rfl (by simp [hr, hf])⟩

theorem enter (hs : h.world.CountsIn s) (hc : h.cell? = some c) {ts' : List Ticket}
    (ht : Turn h.world.now c h.tickets .enter c' ts') : ∃ ns, Recorded s h .enter c c' ns := by
  have hworld : (h.perform .enter).world = (Breaker.enter h.id h.world).2 := by
    simp only [perform]
    rcases Breaker.enter h.id h.world with ⟨_ | _, _⟩ <;> rfl
  have hgranted : c.config.isEnabled = true →
      c.state.verdict c.config h.world.now = .ok .granted →
      c'.state.phase = (c.state.probe h.world.now).1.phase →
      Recorded s h .enter c c' (c.state.probe h.world.now).2 := by
    intro hen hv hp
    obtain ⟨t, w', henter, htold⟩ := told_enter hs hc hen hv
    have ha := State.announces_probe c.state h.world.now
    refine ⟨by rw [hworld, henter]; exact htold, ?_, ?_⟩
    · rw [ha.entered, State.entered, State.entered, hp]
    · simp [ha.refused, refusal?, henter]
  cases ht with
  | unguarded hen =>
    have henter := enter_of_disabled hc hen
    refine ⟨[], .nothing hs ?_ ?_ rfl ?_⟩ <;> simp [hworld, refusal?, henter]
  | refused hen hv =>
    obtain ⟨e, w', hck⟩ := check_of_not_granted hc hv
    have henter := enter_of_check hc hen hck
    refine of_check hs hc ?_ ?_
    · rw [hworld, henter, hck]
    · simp [refusal?, henter, hck]
  | unannounced hen hv => exact ⟨_, hgranted hen hv rfl⟩
  | admitted hen hv => exact ⟨_, hgranted hen hv (State.take_phase _)⟩

theorem release (hs : h.world.CountsIn s) (hc : h.cell? = some c) (place : Nat)
    (hp : c'.state.phase = c.state.phase) : Recorded s h (.release place) c c' [] := by
  have hsinks : (h.perform (.release place)).world.sharedSink = h.world.sharedSink ∧
      (h.perform (.release place)).world.ledgers = h.world.ledgers := by
    simp only [perform]
    cases h.tickets[place]? with
    | none => exact ⟨rfl, rfl⟩
    | some t =>
      dsimp only
      rw [release_eq hc t]
      exact ⟨rfl, rfl⟩
  exact .nothing hs hsinks.1 hsinks.2 hp rfl

theorem configure (hs : h.world.CountsIn s) (hc : h.cell? = some c) (k : Config)
    (hp : c'.state.phase = c.state.phase) : Recorded s h (.configure k) c c' [] := by
  have hworld : (h.perform (.configure k)).world = _ := configure_world hc k
  refine .nothing hs ?_ ?_ hp rfl <;> rw [hworld] <;> split <;> rfl

end Recorded

/-- What a use makes of a breaker, with what it records. -/
theorem recorded_of_perform {s : Sink} {h : Session Number σ} {c : Cell Number}
    (hs : h.world.CountsIn s) (hc : h.cell? = some c) (u : Use Number) :
    ∃ c' ns, (h.perform u).cell? = some c' ∧
      Turn h.world.now c h.tickets u c' (h.perform u).tickets ∧ Recorded s h u c c' ns := by
  obtain ⟨c', hc', ht⟩ := turn_of_perform hc u
  suffices hrec : ∃ ns, Recorded s h u c c' ns from ⟨c', hrec.choose, hc', ht, hrec.choose_spec⟩
  cases u with
  | check =>
    cases ht
    exact Recorded.of_check hs hc rfl rfl
  | enter => exact Recorded.enter hs hc ht
  | release place =>
    refine ⟨_, Recorded.release hs hc place ?_⟩
    generalize (h.perform (.release place)).tickets = ts' at ht
    cases ht with
    | unknown _ _ => rfl
    | released _ t _ => exact State.release_phase c.state t
  | succeed =>
    cases ht
    exact ⟨_, .of_step hs hc State.recordSuccess rfl (State.announces_recordSuccess _ _ _) rfl⟩
  | fail =>
    cases ht
    exact ⟨_, .of_step hs hc State.recordFailure rfl (State.announces_recordFailure _ _ _) rfl⟩
  | reset =>
    cases ht
    have ha := State.announces_reset c.state h.world.now
    exact ⟨_, .of_step hs hc (fun s _ now => s.reset now) rfl ha rfl⟩
  | configure k =>
    refine ⟨_, Recorded.configure hs hc k ?_⟩
    generalize (h.perform (.configure k)).tickets = ts' at ht
    cases ht <;> rfl
  | pass later =>
    cases ht
    exact ⟨[], .nothing hs rfl rfl rfl rfl⟩

end Session

end Breaker

end ResilientCalls
