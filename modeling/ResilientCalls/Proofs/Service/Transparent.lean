import ResilientCalls.Proofs.Breaker.Allowance
import ResilientCalls.Proofs.Service.Journal

namespace ResilientCalls

open Effect

variable {τ σ α : Type}

/-- The world with another breaker in the place of one. -/
def World.setCell (id : Breaker.Id) (c : Breaker.Cell τ) (w : World τ σ) : World τ σ :=
  { w with registry := { w.registry with cells := w.registry.cells.set id c } }

namespace World

variable {id : Breaker.Id} {c : Breaker.Cell τ} {w : World τ σ}

theorem cell?_setCell (h : w.registry.cell? id = some c) (d : Breaker.Cell τ) :
    (w.setCell id d).registry.cell? id = some d :=
  List.getElem?_set_self (List.getElem?_eq_some_iff.1 h).1

theorem setCell_setState (id : Breaker.Id) (s : Breaker.State τ) (d : Breaker.Cell τ)
    (w : World τ σ) :
    ({ w with registry := w.registry.setState id s } : World τ σ).setCell id d =
      w.setCell id d := by
  have hcells : (w.registry.cells.modify id fun c => { c with state := s }).set id d =
      w.registry.cells.set id d := by
    ext1 i
    simp only [List.getElem?_set, List.getElem?_modify, List.length_modify]
    split
    · rfl
    · exact id_map _
  simp only [setCell, Breaker.Registry.setState, Breaker.Registry.modifyState, hcells]

end World

namespace Breaker

theorem Registry.setState_self {r : Registry τ} {id : Id} {c : Cell τ} (h : r.cell? id = some c) :
    r.setState id c.state = r := by
  have hcells : (r.cells.modify id fun c' => { c' with state := c.state }) = r.cells := by
    ext1 i
    rw [List.getElem?_modify]
    split
    · next hi =>
      subst hi
      rw [show r.cells[id]? = some c from h]
      rfl
    · exact id_map _
  rw [setState, modifyState, hcells]

namespace Guard

variable {s : Type} {g : Guard s} {body : Effect s α} {w w₁ w₂ : s}

theorem reporting_of_ok {a : α} (hb : body w = (.ok a, w₁)) (hs : g.succeed w₁ = (.ok (), w₂)) :
    g.reporting body w = (.ok a, w₂) := by
  have htry : (body >>= fun a => g.succeed >>= fun _ => Pure.pure a) w = (.ok a, w₂) := by
    rw [bind_of_ok hb, bind_of_ok hs]
    rfl
  rw [Guard.reporting, ending_bind_apply, htry]
  rfl

theorem reporting_of_cancelled (hb : body w = (.error .cancelled, w₁)) :
    g.reporting body w = (.error .cancelled, w₁) := by
  have htry : (body >>= fun a => g.succeed >>= fun _ => Pure.pure a) w =
      (.error .cancelled, w₁) := bind_of_error hb _
  rw [Guard.reporting, ending_bind_apply, htry]
  rfl

end Guard

section Quiet

variable {id : Id} {w : World τ σ} {c : Cell τ}

theorem advance_quiet (h : w.registry.cell? id = some c)
    (step : State τ → Config → τ → State τ × List Notice)
    (hq : (step c.state c.config w.now).2 = []) :
    advance id step w =
      (.ok (), { w with registry := w.registry.setState id (step c.state c.config w.now).1 }) := by
  simp only [advance, get_bind_apply, h, modify_bind_apply, hq]
  rfl

theorem release_nothing (h : w.registry.cell? id = some c) (used : Bool) :
    release id ⟨none, used⟩ w = (.ok ⟨none, used⟩, w) := by
  rw [release_eq h]
  show (_, { w with registry := w.registry.setState id c.state }) = _
  rw [Registry.setState_self h]
  rfl

/-- What a call's end makes of a state. -/
def State.told (s : State τ) (k : Config) (now : τ) : Except Stop α → State τ
  | .ok _ => (s.recordSuccess k now).1
  | .error (.failed _) => (s.recordFailure k now).1
  | .error .cancelled => s

/-- The world once a breaker has been told how a call ended. -/
def tell (id : Id) (c : Cell τ) (r : Except Stop α) (w : World τ σ) : World τ σ :=
  { w with registry := w.registry.setState id (c.state.told c.config w.now r) }

/-- A breaker that has nothing to say of an outcome. -/
def Cell.Quiet (c : Cell τ) : Prop :=
  ∀ now, (c.state.recordSuccess c.config now).2 = [] ∧ (c.state.recordFailure c.config now).2 = []

variable [Clock τ]

theorem reporting_quiet {body : Run τ σ α} (h : (body w).2.registry.cell? id = some c)
    (hq : c.Quiet) :
    (guard id).reporting body w = ((body w).1, tell id c (body w).1 (body w).2) := by
  cases hb : body w with
  | mk r w₁ =>
    rw [hb] at h
    rcases r with (f | _) | a
    · exact Guard.reporting_of_failed hb (advance_quiet h _ (hq _).2)
    · rw [Guard.reporting_of_cancelled hb]
      show (_, w₁) = (_, { w₁ with registry := w₁.registry.setState id c.state })
      rw [Registry.setState_self h]
    · exact Guard.reporting_of_ok hb (advance_quiet h _ (hq _).1)

/-- A call that is admitted without a slot ends as its body does, and only its outcome is kept. -/
theorem call_quiet {body : Run τ σ α} (he : enter id w = (.ok ⟨none, false⟩, w))
    (h : (body w).2.registry.cell? id = some c) (hq : c.Quiet) :
    (guard id).call body w = ((body w).1, tell id c (body w).1 (body w).2) := by
  have hheld : (guard id).call body w =
      Effect.thereafter ((guard id).reporting body) ((guard id).release ⟨none, false⟩) w :=
    Guard.hold_of_ok he _
  have hc := Registry.cell?_setState_self h (c.state.told c.config (body w).2.now (body w).1)
  have hfreed : (guard id).release ⟨none, false⟩ (tell id c (body w).1 (body w).2) =
      (.ok (), tell id c (body w).1 (body w).2) := by
    rw [guard_release, release_nothing hc]
  rw [hheld, Effect.thereafter, ending_bind_apply, reporting_quiet h hq]
  exact (bind_of_ok hfreed _).trans (conclude_apply _ _)

theorem enter_of_closed (h : w.registry.cell? id = some c) (hp : c.state.phase = .closed) :
    enter id w = (.ok ⟨none, false⟩, w) := by
  cases hen : c.config.isEnabled with
  | false => exact enter_of_disabled h hen
  | true =>
    have hv : c.state.verdict c.config w.now = .ok .granted := by simp [State.verdict, hen, hp]
    have hprobe : c.state.probe w.now = (c.state, []) := State.probe_of_ne _ (by simp [hp])
    have htake : c.state.take = (c.state, ⟨none, false⟩) := by simp [State.take, hp]
    have hstep := advance_quiet h (fun s _ now => s.probe now) (by rw [hprobe])
    rw [hprobe, Registry.setState_self h] at hstep
    rw [enter_of_verdict h hen hv, bind_of_ok hstep, take_eq h, htake, Registry.setState_self h]

end Quiet

/-- A closed breaker that opens on none of the next `n` failures. -/
structure Cell.Room (c : Cell τ) (n : Nat) : Prop where
  enabled : c.config.isEnabled = true
  closed : c.state.phase = .closed
  counted : ∃ (failures : Nat) (threshold : Int), c.state.failures = .whole failures ∧
    c.config.threshold.value = .inl threshold ∧ failures + n < threshold

namespace Cell.Room

variable {c : Cell τ} {n : Nat}

theorem succ_le (h : c.Room (n + 1)) : c.Room n where
  enabled := h.enabled
  closed := h.closed
  counted := by
    obtain ⟨failures, threshold, hf, ht, hlt⟩ := h.counted
    exact ⟨failures, threshold, hf, ht, by omega⟩

theorem recordSuccess_eq (h : c.Room n) (now : τ) :
    c.state.recordSuccess c.config now = ({ c.state with failures := 0 }, []) := by
  simp [State.recordSuccess, h.enabled, h.closed]

theorem recordFailure_eq (h : c.Room (n + 1)) (now : τ) :
    c.state.recordFailure c.config now =
      ({ c.state with failures := c.state.failures.next }, []) := by
  obtain ⟨failures, threshold, hf, ht, hlt⟩ := h.counted
  have hreach : c.state.failures.next.reaches c.config.threshold = false := by
    rw [hf, Number.next_whole, Number.reaches_of_values rfl ht]
    exact decide_eq_false (by omega)
  simp [State.recordFailure, h.enabled, h.closed, hreach]

theorem quiet (h : c.Room (n + 1)) : c.Quiet := by
  intro now
  rw [h.recordSuccess_eq, h.recordFailure_eq]
  exact ⟨rfl, rfl⟩

/-- A call takes no more than one from the failures that there is room for. -/
theorem told (h : c.Room (n + 1)) (now : τ) (r : Except Stop α) :
    Room { c with state := c.state.told c.config now r } n := by
  obtain ⟨failures, threshold, hf, ht, hlt⟩ := h.counted
  rcases r with (f | _) | a
  · rw [State.told, h.recordFailure_eq]
    refine ⟨h.enabled, h.closed, failures + 1, threshold, ?_, ht, by omega⟩
    rw [hf, Number.next_whole]
    rfl
  · exact h.succ_le
  · rw [State.told, h.recordSuccess_eq]
    exact ⟨h.enabled, h.closed, 0, threshold, rfl, ht, by omega⟩

end Cell.Room

theorem tell_of_disabled {id : Id} {c : Cell τ} (hc : c.config.isEnabled = false)
    {w : World τ σ} (h : w.registry.cell? id = some c) (r : Except Stop α) : tell id c r w = w := by
  have htold : c.state.told c.config w.now r = c.state := by
    rcases r with (f | _) | a
    · simp [State.told, State.recordFailure, hc]
    · rfl
    · simp [State.told, State.recordSuccess, hc]
  rw [tell, htold, Registry.setState_self h]

theorem Cell.quiet_of_disabled {c : Cell τ} (hc : c.config.isEnabled = false) : c.Quiet := by
  intro now
  simp [State.recordSuccess, State.recordFailure, hc]

/-- One world has a closed breaker that there is room in, the other one a breaker of our own. -/
def Beside (id : Id) (d : Cell τ) (n : Nat) (w v : World τ σ) : Prop :=
  ∃ c, w.registry.cell? id = some c ∧ c.Room n ∧ v = w.setCell id d

theorem spending_beside (id : Id) (d : Cell τ) :
    World.Spending (Beside id d : Nat → World τ σ → World τ σ → Prop) where
  succ_le n := by
    rintro w v ⟨c, hc, hroom, hv⟩
    exact ⟨c, hc, hroom.succ_le, hv⟩
  unnoticed n := by
    constructor <;> rintro w _ ⟨c, hc, hroom, rfl⟩
    case setLedgers | setShared | addLog | addPublished => exact fun _ => ⟨c, hc, hroom, rfl⟩
    all_goals rfl

/-- What neither looks at a breaker nor changes it. -/
structure Ignores (id : Id) (x : Run τ σ α) : Prop where
  unaware : ∀ c, Follows (World.setCell id c) x x
  keeps : ∀ w, (x w).2.registry.cell? id = w.registry.cell? id

theorem Ignores.abreast {id : Id} {x : Run τ σ α} (hx : Ignores id x) (d : Cell τ) (n : Nat) :
    Abreast (Beside id d n) x x (Beside id d n) := by
  rintro w _ ⟨c, hc, hroom, rfl⟩
  rw [hx.unaware d w]
  exact ⟨rfl, c, (hx.keeps w).trans hc, hroom, rfl⟩

variable [Clock τ]

theorem abreast_check {id : Id} {d : Cell τ} (hd : d.config.isEnabled = false) (n : Nat) :
    Abreast (Beside id d n) (check id : Run τ σ Unit) (check id) (Beside id d n) := by
  rintro w _ ⟨c, hc, hroom, rfl⟩
  have hopen : check id w = (.ok (), w) :=
    check_granted hc (by simp [State.verdict, hroom.enabled, hroom.closed])
  have hoff : check id (w.setCell id d) = (.ok (), w.setCell id d) :=
    check_granted (World.cell?_setCell hc d) (by simp [State.verdict, hd])
  rw [hopen, hoff]
  exact ⟨rfl, c, hc, hroom, rfl⟩

/-- A guarded call is the same call with a breaker that is switched off. -/
theorem abreast_call {id : Id} {d : Cell τ} (hd : d.config.isEnabled = false) {n : Nat}
    {body : Run τ σ α} (hb : Abreast (Beside id d (n + 1)) body body (Beside id d (n + 1))) :
    Abreast (Beside id d (n + 1)) ((guard id).call body) ((guard id).call body)
      (Beside id d n) := by
  rintro w _ ⟨c, hc, hroom, rfl⟩
  obtain ⟨he, c', hc', hroom', hv⟩ := hb w _ ⟨c, hc, hroom, rfl⟩
  have hd' : (body (w.setCell id d)).2.registry.cell? id = some d := by
    rw [hv]
    exact World.cell?_setCell hc' d
  -- neither breaker has anything to announce when it is told how the call ended
  rw [call_quiet (enter_of_closed hc hroom.closed) hc' hroom'.quiet,
    call_quiet (enter_of_disabled (World.cell?_setCell hc d) hd) hd' (Cell.quiet_of_disabled hd),
    tell_of_disabled hd hd']
  refine ⟨he, _, Registry.cell?_setState_self hc' _, hroom'.told _ _, ?_⟩
  exact hv.trans (World.setCell_setState _ _ _ _).symm

end Breaker

open Breaker (Ignores Beside)

/-- A provider that neither looks at a breaker nor changes it. -/
structure Provider.Ignores (id : Breaker.Id) (p : Provider τ σ) : Prop where
  generate : ∀ system user json, Breaker.Ignores id (p.generate system user json)
  translate : ∀ b, Breaker.Ignores id (p.translate b)

section Services

variable [Clock τ] {s : Service} {p : Provider τ σ} {wait : Binary64 → Run τ σ Unit}
  {off : Breaker.Cell τ}

theorem Service.abreast_call_off (s : Service) (hoff : off.config.isEnabled = false) {x : Run τ σ α}
    (hx : ∀ n, Abreast (Beside s.breaker off n) x x (Beside s.breaker off n)) (n : Nat) :
    Abreast (Beside s.breaker off (n + 1)) (s.attempt s.guard x) (s.attempt s.guard x)
      (Beside s.breaker off n) := by
  refine Breaker.abreast_call hoff (Abreast.bind ?_ (fun _ => hx _) le_rfl)
  exact abreast_inject ((Breaker.spending_beside _ _).unnoticed _) _ _

theorem Summary.abreast_off (hp : p.Ignores s.breaker) (hw : ∀ d, Ignores s.breaker (wait d))
    (hoff : off.config.isEnabled = false) (text : String) (settings : Json) :
    Abreast (Beside s.breaker off s.policy.limit) (summarize s p wait text settings)
      (summarize s p wait text settings) (Beside s.breaker off 0) := by
  refine abreast_summarizeUnder (Breaker.spending_beside _ _) rfl s le_rfl
    (Breaker.abreast_check hoff _) (fun n d => (hw d).abreast off n) (fun system text => ?_) _ _
  refine s.abreast_call_off hoff fun n => abreast_ask rfl (fun system user json => ?_) system text
  exact (hp.generate system user json).abreast off n

theorem Localization.abreast_off (hp : p.Ignores s.breaker) (hw : ∀ d, Ignores s.breaker (wait d))
    (hoff : off.config.isEnabled = false) (b : Batch) :
    Abreast (Beside s.breaker off s.policy.limit) (translateBatch s p wait b)
      (translateBatch s p wait b) (Beside s.breaker off 0) :=
  abreast_translateBatchUnder (Breaker.spending_beside _ _) rfl s le_rfl
    (Breaker.abreast_check hoff _) (fun n d => (hw d).abreast off n) b
    (s.abreast_call_off hoff fun n => (hp.translate b).abreast off n)

end Services

/-- What a provider or a wait is asked for, with what came of it. -/
inductive Exchange where
  | generated (system user : String) (json : Bool) (r : Except Stop CodePoints)
  | translated (b : Localization.Batch) (r : Except Stop (List Localization.Result))
  | waited (seconds : Binary64) (r : Except Stop Unit)

namespace Exchange

open Journal

/-- A provider all of whose calls are noted. -/
def provider (p : Provider τ σ) : Provider τ (List Exchange × σ) where
  name := p.name
  generate system user json := replying (generated system user json) (p.generate system user json)
  translate b := replying (translated b) (p.translate b)

def waiting (wait : Binary64 → Run τ σ Unit) (d : Binary64) : Run τ (List Exchange × σ) Unit :=
  replying (waited d) (wait d)

theorem mirror_provider (p : Provider τ σ) : (provider p).Mirror Prod.snd p where
  name := rfl
  generate _ _ _ := mirrors_replying _ _
  translate _ := mirrors_replying _ _

variable {id : Breaker.Id}

theorem ignores_replying {x : Run τ σ α} (hx : Ignores id x) (event : Except Stop α → Exchange) :
    Ignores id (replying event x) where
  unaware c w := by
    have h := hx.unaware c (without w)
    rw [replying_apply, replying_apply]
    show ((x ((without w).setCell id c)).1, _) = _
    rw [show without (w.setCell id c) = (without w).setCell id c from rfl, h]
    rfl
  keeps w := by
    rw [replying_apply]
    exact hx.keeps (without w)

theorem ignores_provider {p : Provider τ σ} (hp : p.Ignores id) : (provider p).Ignores id where
  generate system user json := ignores_replying (hp.generate system user json) _
  translate b := ignores_replying (hp.translate b) _

/-- With another breaker in the place of one, a computation ends in the same way and in the same
world but for that breaker, which is left as it was; and the same is exchanged on the way. -/
structure Alike (id : Breaker.Id) (off : Breaker.Cell τ) (w : World τ σ) (x : Run τ σ α)
    (noted : Run τ (List Exchange × σ) α) : Prop where
  ended : x (w.setCell id off) = ((x w).1, (x w).2.setCell id off)
  untouched : (x (w.setCell id off)).2.registry.cell? id = some off
  exchanged : ∃ js, noted (withJournal [] w) = ((x w).1, withJournal js (x w).2) ∧
    noted (withJournal [] (w.setCell id off)) =
      ((x w).1, withJournal js ((x w).2.setCell id off))

theorem alike_of_abreast {off c : Breaker.Cell τ} {n : Nat} {w : World τ σ} {x : Run τ σ α}
    {noted : Run τ (List Exchange × σ) α} (hc : w.registry.cell? id = some c) (hroom : c.Room n)
    (hm : Mirrors Prod.snd noted x)
    (hx : Abreast (Beside id off n) x x (Beside id off 0))
    (hnoted : Abreast (Beside id off n) noted noted (Beside id off 0)) :
    Alike id off w x noted := by
  have hjournal := journal_of_mirrors hm (w := w) rfl
  generalize (noted (withJournal [] w)).2.outside.1 = js at hjournal
  obtain ⟨he, c', hc', -, hw⟩ := hx w _ ⟨c, hc, hroom, rfl⟩
  obtain ⟨hne, _, -, -, hnw⟩ := hnoted (withJournal [] w) _ ⟨c, hc, hroom, rfl⟩
  rw [hjournal] at hne hnw
  refine ⟨Prod.ext he.symm hw, ?_, js, hjournal, Prod.ext hne.symm hnw⟩
  rw [hw]
  exact World.cell?_setCell hc' off

end Exchange

open Exchange in
/-- A call whose attempts cannot open a closed breaker, counted on from the failures that it knows
of, is the same call with the breaker switched off: it ends in the same way, makes the same calls
of the provider and the same waits, and leaves the same metrics and log records. A breaker that is
switched off is left as it was. -/
theorem closed_breaker_unnoticed [Clock τ] (s : Service) {p : Provider τ σ}
    {wait : Binary64 → Run τ σ Unit} (hp : p.Ignores s.breaker)
    (hw : ∀ d, Ignores s.breaker (wait d)) {w : World τ σ} {c : Breaker.Cell τ}
    (hc : w.registry.cell? s.breaker = some c) (hen : c.config.isEnabled = true)
    (hclosed : c.state.phase = .closed) {failures : Nat} (hf : c.state.failures = .whole failures)
    {threshold : Int} (ht : c.config.threshold.value = .inl threshold)
    (hroom : failures + s.policy.limit < threshold) {off : Breaker.Cell τ}
    (hoff : off.config.isEnabled = false) :
    (∀ text settings, Alike s.breaker off w (Summary.summarize s p wait text settings)
      (Summary.summarize s (provider p) (waiting wait) text settings)) ∧
    ∀ b, Alike s.breaker off w (Localization.translateBatch s p wait b)
      (Localization.translateBatch s (provider p) (waiting wait) b) := by
  have hr : c.Room s.policy.limit := ⟨hen, hclosed, failures, threshold, hf, ht, hroom⟩
  have hp' : (provider p).Ignores s.breaker := ignores_provider hp
  have hw' : ∀ d, Ignores s.breaker (waiting wait d) := fun d => ignores_replying (hw d) _
  have hguard : (s.guard : Breaker.Guard (World τ (List Exchange × σ))).Follow
      (World.mapOutside Prod.snd) s.guard := Breaker.mirrors_guard Prod.snd s.breaker
  constructor
  · intro text settings
    exact alike_of_abreast hc hr
      (Summary.mirrors_summarizeUnder hguard (mirror_provider p)
        (fun _ => Journal.mirrors_replying _ _) s text settings)
      (Summary.abreast_off hp hw hoff text settings)
      (Summary.abreast_off hp' hw' hoff text settings)
  · intro b
    exact alike_of_abreast hc hr
      (Localization.mirrors_translateBatchUnder hguard (mirror_provider p)
        (fun _ => Journal.mirrors_replying _ _) s b)
      (Localization.abreast_off hp hw hoff b) (Localization.abreast_off hp' hw' hoff b)

namespace Exchange.Steadfast

/-- Five failures open it. -/
def config : Breaker.Config :=
  { Breaker.Config.brittle with threshold := .whole 5, threshold_inRange := by decide }

/-- A breaker that one call has failed of. -/
def session : Breaker.Session Number Unit :=
  (Breaker.Session.start (.start 0 ()) config).perform .fail

def cell : Breaker.Cell Number := ⟨config.key, config, { Breaker.State.fresh with failures := 1 }⟩

def off : Breaker.Cell Number := { cell with config := { config with enabled := .bool false } }

def service : Service := ⟨.summarizing, session.id, .standard, ⟨[], false⟩, none⟩

def text : String := String.ofList (List.replicate 60 'a')

end Exchange.Steadfast

open Exchange Exchange.Steadfast in
/-- Three attempts that fail do not open a breaker that takes five failures and knows of one. -/
theorem closed_breaker_unnoticed_steadfast :
    cell.state.failures = .whole (1 : Nat) ∧ ((1 : Nat) : Int) + service.policy.limit < 5 ∧
    Alike session.id off session.world
      (Summary.summarize service (.silent "model") (fun _ => Pure.pure ()) text .null)
      (Summary.summarize service (provider (.silent "model")) (waiting fun _ => Pure.pure ()) text
        .null) := by
  have hp : (Provider.silent "model" : Provider Number Unit).Ignores session.id :=
    ⟨fun _ _ _ => ⟨fun _ => Follows.fail _, fun _ => rfl⟩,
      fun _ => ⟨fun _ => Follows.fail _, fun _ => rfl⟩⟩
  have hw : ∀ _ : Binary64, Ignores session.id (Pure.pure () : Run Number Unit Unit) :=
    fun _ => ⟨fun _ => Follows.pure _, fun _ => rfl⟩
  have hc : session.world.registry.cell? session.id = some cell :=
    Breaker.cell?_advance (Breaker.Session.cell?_start _ config) _
  have hroom : ((1 : Nat) : Int) + service.policy.limit < 5 := by decide
  refine ⟨rfl, hroom, ?_⟩
  exact (closed_breaker_unnoticed service hp hw hc rfl rfl rfl rfl hroom rfl).1 text .null

end ResilientCalls
