import Mathlib.Algebra.Order.Floor.Semiring
import ResilientCalls.Proofs.Breaker.Shape
import ResilientCalls.Proofs.Breaker.Window

namespace ResilientCalls

namespace Clock

/-- The least whole number of milliseconds that is not below what is left of a window. -/
def advised (timeout since reading : ℚ) : ℕ := ⌈timeout - (reading - since) * 1000⌉₊

variable {timeout since reading later : ℚ}

theorem advised_eq_zero_iff :
    advised timeout since reading = 0 ↔ timeout ≤ (reading - since) * 1000 := by
  rw [advised, Nat.ceil_eq_zero, sub_nonpos]

theorem advised_le (h : since ≤ reading) : advised timeout since reading ≤ ⌈timeout⌉₊ := by
  apply Nat.ceil_le_ceil
  linarith

theorem advised_anti (h : reading ≤ later) :
    advised timeout since later ≤ advised timeout since reading := by
  apply Nat.ceil_le_ceil
  linarith

/-- After the advised wait nothing is left of the window. -/
theorem advised_of_waited (h : (advised timeout since reading : ℚ) ≤ (later - reading) * 1000) :
    advised timeout since later = 0 := by
  have hleft : timeout - (reading - since) * 1000 ≤ advised timeout since reading := Nat.le_ceil _
  rw [advised_eq_zero_iff]
  linarith

theorem advised_of_not_waited (hpos : 0 < advised timeout since reading)
    (h : (later - reading) * 1000 ≤ (advised timeout since reading : ℚ) - 1) :
    0 < advised timeout since later := by
  have hleft : (advised timeout since reading : ℚ) < timeout - (reading - since) * 1000 + 1 :=
    Nat.ceil_lt_add_one (Nat.ceil_pos.1 hpos).le
  apply Nat.ceil_pos.2
  linarith

/-- What a relation of instants to seconds says of a clock: what is left of a window is what is left
of it in seconds. -/
def Measures {τ : Type} [Clock τ] (exact : Number → τ → τ → ℚ → ℚ → ℚ → Prop) : Prop :=
  ∀ window opened now timeout since reading, exact window opened now timeout since reading →
    remainingMs window opened now = .ok (advised timeout since reading)

theorem exact_measures : Measures Exact := by
  intro window opened now timeout since reading h
  rw [h.remainingMs, Int.ceil_toNat, advised]

/-- A clock that reads exact seconds. -/
instance : Clock ℚ where
  remainingMs window opened now :=
    match window.rational? with
    | some timeout => .ok (advised timeout opened now)
    | none => roundedUp window

/-- The instants of an exact clock are seconds. -/
structure InSeconds (window : Number) (opened now timeout since reading : ℚ) : Prop where
  timeout_eq : window.rational? = some timeout
  since_eq : opened = since
  reading_eq : now = reading

theorem inSeconds_measures : Measures InSeconds := by
  rintro window opened now timeout _ _ ⟨htimeout, rfl, rfl⟩
  show (match window.rational? with | some timeout => _ | none => _) = _
  rw [htimeout]

end Clock

namespace Breaker

open Effect World

variable {τ σ : Type} [Clock τ]

namespace State

variable {s : State τ} {k : Config} {now opened : τ} {n : ℕ}

theorem verdict_of_closed (hp : s.phase = .closed) : s.verdict k now = .ok .granted := by
  rw [verdict, hp]
  exact ite_self _

theorem verdict_of_opened (hen : k.isEnabled = true) (hp : s.phase = .opened)
    (hat : s.openedAt = some opened) (hleft : Clock.remainingMs k.recoveryMs opened now = .ok n) :
    s.verdict k now = .ok (if n = 0 then .granted else .refused (some n)) := by
  have hr : s.remainingMs k now = .ok n := by
    rw [remainingMs, hat]
    exact hleft
  rw [verdict, hen, hp, hr]
  cases n <;> rfl

theorem verdict_of_halfOpen (hen : k.isEnabled = true) (hp : s.phase = .halfOpen)
    (hn : s.inFlight = .whole n) {limit : ℚ} (hlimit : k.probes.rational? = some limit) :
    s.verdict k now = .ok (if limit ≤ n then .refused none else .granted) := by
  rw [verdict, hen, hp, hn, Number.reaches_of_rational hlimit]
  simp

end State

namespace Session

/-- A call is admitted, and a check says so without a change. -/
def Admits (h : Session τ σ) : Prop :=
  Breaker.check h.id h.world = (.ok (), h.world) ∧ ∃ t, (Breaker.enter h.id h.world).1 = .ok t

/-- A call is refused, and a check says so, with the wait that is advised. -/
def Refuses (h : Session τ σ) (c : Cell τ) (retryAfterMs : Option ℕ) : Prop :=
  let refusal : Failure :=
    .circuitOpen c.config.key c.state.phase.name (retryAfterMs.map Int.ofNat)
  (Breaker.check h.id h.world).1 = .error (.failed refusal) ∧
    (Breaker.enter h.id h.world).1 = .error (.failed refusal)

section

variable {h : Session τ σ} {c : Cell τ} {r r' : Option ℕ}

theorem admits_of_granted (hc : h.cell? = some c) (hen : c.config.isEnabled = true)
    (hw : h.world.Delivers) (hv : c.state.verdict c.config h.world.now = .ok .granted) :
    h.Admits := by
  obtain ⟨w', henter, -⟩ := enter_of_granted hc hen hv hw
  exact ⟨check_granted hc hv, _, congrArg Prod.fst henter⟩

theorem refuses_of_refused (hc : h.cell? = some c) (hen : c.config.isEnabled = true)
    (hw : h.world.Delivers) (hv : c.state.verdict c.config h.world.now = .ok (.refused r)) :
    h.Refuses c r := by
  obtain ⟨w', hcheck, -⟩ := check_refused hc hv hw
  exact ⟨congrArg Prod.fst hcheck, congrArg Prod.fst (enter_of_check hc hen hcheck)⟩

theorem Admits.not_refuses (ha : h.Admits) : ¬ h.Refuses c r := by
  rintro ⟨hcheck, -⟩
  rw [ha.1] at hcheck
  cases hcheck

theorem Refuses.advice_eq (hr : h.Refuses c r) (hr' : h.Refuses c r') : r = r' := by
  have hadvice := hr.1.symm.trans hr'.1
  simp only [Except.error.injEq, Stop.failed.injEq, Failure.circuitOpen.injEq] at hadvice
  exact Option.map_injective (fun _ _ => Int.ofNat.inj) hadvice.2.2

end

/-- What a session knows of its breaker's instants and limit in exact numbers. -/
structure Gauged (exact : Number → τ → τ → ℚ → ℚ → ℚ → Prop) (h : Session τ σ) (c : Cell τ)
    (limit timeout since reading : ℚ) : Prop where
  enabled : c.config.isEnabled = true
  delivers : h.world.Delivers
  limit_eq : c.config.probes.rational? = some limit
  opened : ∀ opened, c.state.openedAt = some opened →
    exact c.config.recoveryMs opened h.world.now timeout since reading ∧ since ≤ reading

/-- The window of a breaker is open, or its slots are taken. -/
def Blocked (c : Cell τ) (inFlight : ℕ) (limit timeout since reading : ℚ) : Prop :=
  (c.state.phase = .opened ∧ (reading - since) * 1000 < timeout) ∨
    (c.state.phase = .halfOpen ∧ limit ≤ inFlight)

/-- A call is refused just while the breaker is blocked, and is else admitted. -/
structure Sharp (exact : Number → τ → τ → ℚ → ℚ → ℚ → Prop) (h : Session τ σ) (c : Cell τ)
    (inFlight : ℕ) (limit timeout since reading : ℚ) : Prop where
  refuses_iff : (∃ r, h.Refuses c r) ↔ Blocked c inFlight limit timeout since reading
  admits_iff : h.Admits ↔ ¬ Blocked c inFlight limit timeout since reading
  /-- For its slots it advises no wait. -/
  halfOpen : c.state.phase = .halfOpen → ∀ r, h.Refuses c r → r = none
  /-- For its window it advises one within the time of the window. -/
  opened : c.state.phase = .opened → ∀ r, h.Refuses c r →
    ∃ ms, r = some ms ∧ 1 ≤ ms ∧ ms ≤ ⌈timeout⌉₊
  /-- With nothing but the passing of time, it admits from the advised wait on, refuses up to a
  millisecond before that, and never advises more. -/
  waited : ∀ ms, h.Refuses c (some ms) → ∀ opened, c.state.openedAt = some opened →
    ∀ later reading', exact c.config.recoveryMs opened later timeout since reading' →
      reading ≤ reading' →
      ((ms : ℚ) ≤ (reading' - reading) * 1000 → (h.perform (.pass later)).Admits) ∧
      ((reading' - reading) * 1000 ≤ (ms : ℚ) - 1 → ∃ r, (h.perform (.pass later)).Refuses c r) ∧
      ∀ r, (h.perform (.pass later)).Refuses c r → ∃ ms', r = some ms' ∧ ms' ≤ ms

namespace Gauged

variable {exact : Number → τ → τ → ℚ → ℚ → ℚ → Prop} {h : Session τ σ} {c : Cell τ}
  {limit timeout since reading : ℚ}

theorem admits_of_closed (hg : h.Gauged exact c limit timeout since reading)
    (hc : h.cell? = some c) (hp : c.state.phase = .closed) : h.Admits :=
  admits_of_granted hc hg.enabled hg.delivers (State.verdict_of_closed hp)

/-- An open breaker refuses with the wait that is advised, unless that is none. -/
theorem of_opened (hg : h.Gauged exact c limit timeout since reading)
    (hm : Clock.Measures exact) (hc : h.cell? = some c) (hs : c.state.Shaped)
    (hp : c.state.phase = .opened) :
    (Clock.advised timeout since reading = 0 ∧ h.Admits) ∨
      (0 < Clock.advised timeout since reading ∧
        h.Refuses c (some (Clock.advised timeout since reading))) := by
  obtain ⟨opened, hat⟩ := Option.isSome_iff_exists.1 (hs.openedAt.2 hp)
  have hleft := hm _ _ _ _ _ _ (hg.opened opened hat).1
  have hv := State.verdict_of_opened hg.enabled hp hat hleft
  by_cases hzero : Clock.advised timeout since reading = 0
  · rw [if_pos hzero] at hv
    exact Or.inl ⟨hzero, admits_of_granted hc hg.enabled hg.delivers hv⟩
  · rw [if_neg hzero] at hv
    exact Or.inr ⟨Nat.pos_of_ne_zero hzero, refuses_of_refused hc hg.enabled hg.delivers hv⟩

theorem of_halfOpen (hg : h.Gauged exact c limit timeout since reading)
    (hc : h.cell? = some c) (hp : c.state.phase = .halfOpen) {n : ℕ}
    (hn : c.state.inFlight = .whole n) :
    (¬ limit ≤ n ∧ h.Admits) ∨ (limit ≤ n ∧ h.Refuses c none) := by
  have hv : c.state.verdict c.config h.world.now =
      .ok (if limit ≤ n then .refused none else .granted) :=
    State.verdict_of_halfOpen hg.enabled hp hn hg.limit_eq
  by_cases hfull : limit ≤ n
  · rw [if_pos hfull] at hv
    exact Or.inr ⟨hfull, refuses_of_refused hc hg.enabled hg.delivers hv⟩
  · rw [if_neg hfull] at hv
    exact Or.inl ⟨hfull, admits_of_granted hc hg.enabled hg.delivers hv⟩

/-- When time passes the breaker is the same, and its window is read at another instant. -/
theorem pass (hg : h.Gauged exact c limit timeout since reading) {opened later : τ}
    (hat : c.state.openedAt = some opened) {reading' : ℚ}
    (hlater : exact c.config.recoveryMs opened later timeout since reading')
    (hle : reading ≤ reading') :
    (h.perform (.pass later)).Gauged exact c limit timeout since reading' where
  enabled := hg.enabled
  delivers := hg.delivers
  limit_eq := hg.limit_eq
  opened opened' hat' := by
    obtain rfl : opened = opened' := Option.some.inj (hat.symm.trans hat')
    exact ⟨hlater, (hg.opened opened hat).2.trans hle⟩

theorem refuses_or_admits (hg : h.Gauged exact c limit timeout since reading)
    (hm : Clock.Measures exact) (hc : h.cell? = some c) (hs : c.state.Shaped) {n : ℕ}
    (hn : c.state.inFlight = .whole n) :
    ((∃ r, h.Refuses c r) ∧ Blocked c n limit timeout since reading) ∨
      (h.Admits ∧ ¬ Blocked c n limit timeout since reading) := by
  unfold Blocked
  cases hp : c.state.phase with
  | closed => exact Or.inr ⟨hg.admits_of_closed hc hp, by simp⟩
  | opened =>
    rw [← not_le, ← Clock.advised_eq_zero_iff]
    rcases hg.of_opened hm hc hs hp with ⟨hzero, hadmits⟩ | ⟨hpos, hrefuses⟩
    · exact Or.inr ⟨hadmits, by simp [hzero]⟩
    · exact Or.inl ⟨⟨_, hrefuses⟩, Or.inl ⟨rfl, hpos.ne'⟩⟩
  | halfOpen =>
    rcases hg.of_halfOpen hc hp hn with ⟨hfree, hadmits⟩ | ⟨hfull, hrefuses⟩
    · exact Or.inr ⟨hadmits, by simp [hfree]⟩
    · exact Or.inl ⟨⟨_, hrefuses⟩, Or.inr ⟨rfl, hfull⟩⟩

theorem advice_eq (hg : h.Gauged exact c limit timeout since reading) (hm : Clock.Measures exact)
    (hc : h.cell? = some c) (hs : c.state.Shaped) (hp : c.state.phase = .opened) {r : Option ℕ}
    (hr : h.Refuses c r) :
    0 < Clock.advised timeout since reading ∧ r = some (Clock.advised timeout since reading) := by
  rcases hg.of_opened hm hc hs hp with ⟨-, hadmits⟩ | ⟨hpos, hrefuses⟩
  · exact absurd hr hadmits.not_refuses
  · exact ⟨hpos, hr.advice_eq hrefuses⟩

theorem sharp (hg : h.Gauged exact c limit timeout since reading) (hm : Clock.Measures exact)
    (hc : h.cell? = some c) (hs : c.state.Shaped) {n : ℕ} (hn : c.state.inFlight = .whole n) :
    h.Sharp exact c n limit timeout since reading where
  refuses_iff := by
    rcases hg.refuses_or_admits hm hc hs hn with ⟨hrefuses, hblocked⟩ | ⟨hadmits, hblocked⟩
    · exact iff_of_true hrefuses hblocked
    · exact iff_of_false (fun ⟨_, hr⟩ => hadmits.not_refuses hr) hblocked
  admits_iff := by
    rcases hg.refuses_or_admits hm hc hs hn with ⟨⟨r, hr⟩, hblocked⟩ | ⟨hadmits, hblocked⟩
    · exact iff_of_false (fun hadmits => hadmits.not_refuses hr) (not_not.2 hblocked)
    · exact iff_of_true hadmits hblocked
  halfOpen hp r hr := by
    rcases hg.of_halfOpen hc hp hn with ⟨-, hadmits⟩ | ⟨-, hrefuses⟩
    · exact absurd hr hadmits.not_refuses
    · exact hr.advice_eq hrefuses
  opened hp r hr := by
    obtain ⟨hpos, rfl⟩ := hg.advice_eq hm hc hs hp hr
    obtain ⟨opened, hat⟩ := Option.isSome_iff_exists.1 (hs.openedAt.2 hp)
    exact ⟨_, rfl, hpos, Clock.advised_le (hg.opened opened hat).2⟩
  waited ms hr opened hat later reading' hlater hle := by
    have hp : c.state.phase = .opened := hs.openedAt.1 (Option.isSome_iff_exists.2 ⟨opened, hat⟩)
    obtain ⟨hpos, hms⟩ := hg.advice_eq hm hc hs hp hr
    obtain rfl := Option.some.inj hms
    have hg' := hg.pass hat hlater hle
    have hc' : (h.perform (.pass later)).cell? = some c := hc
    have hopened := hg'.of_opened hm hc' hs hp
    refine ⟨fun hwaited => ?_, fun hshort => ?_, fun r' hr' => ?_⟩
    · have hzero := Clock.advised_of_waited hwaited
      rcases hopened with ⟨-, hadmits⟩ | ⟨hpos', -⟩
      · exact hadmits
      · omega
    · have hpos' := Clock.advised_of_not_waited hpos hshort
      rcases hopened with ⟨hzero, -⟩ | ⟨-, hrefuses⟩
      · omega
      · exact ⟨_, hrefuses⟩
    · obtain ⟨-, rfl⟩ := hg'.advice_eq hm hc' hs hp hr'
      exact ⟨_, rfl, Clock.advised_anti hle⟩

end Gauged

theorem run_sharp {exact : Number → τ → τ → ℚ → ℚ → ℚ → Prop} (hm : Clock.Measures exact)
    (w : World τ σ) (config : Config) (us : List (Use τ)) :
    ∃ (c : Cell τ) (inFlight : ℕ), ((start w config).run us).cell? = some c ∧
      c.state.inFlight = .whole inFlight ∧ ∀ limit timeout since reading,
        ((start w config).run us).Gauged exact c limit timeout since reading →
        ((start w config).run us).Sharp exact c inFlight limit timeout since reading := by
  obtain ⟨c, hc, hs⟩ := run_shaped w config us
  obtain ⟨c', hc', ha⟩ := run_accounted w config us
  obtain rfl : c = c' := Option.some.inj (hc.symm.trans hc')
  exact ⟨c, _, hc, ha.counted, fun _ _ _ _ hg => hg.sharp hm hc hs ha.counted⟩

end Session

/-- After every session that begins with a new breaker, and with every configuration in force by
then, a call is refused just while the breaker is blocked, and with the wait that the refusal
advises; both for numbers whose arithmetic is exact and for exact seconds. -/
theorem admission_exact :
    (∀ {σ : Type} (w : World Number σ) (config : Config) (us : List (Use Number)),
      ∃ (c : Cell Number) (inFlight : ℕ), ((Session.start w config).run us).cell? = some c ∧
        c.state.inFlight = .whole inFlight ∧ ∀ limit timeout since reading,
          ((Session.start w config).run us).Gauged Clock.Exact c limit timeout since reading →
          ((Session.start w config).run us).Sharp Clock.Exact c inFlight limit timeout since
            reading) ∧
    ∀ {σ : Type} (w : World ℚ σ) (config : Config) (us : List (Use ℚ)),
      ∃ (c : Cell ℚ) (inFlight : ℕ), ((Session.start w config).run us).cell? = some c ∧
        c.state.inFlight = .whole inFlight ∧ ∀ limit timeout since reading,
          ((Session.start w config).run us).Gauged Clock.InSeconds c limit timeout since reading →
          ((Session.start w config).run us).Sharp Clock.InSeconds c inFlight limit timeout since
            reading :=
  ⟨Session.run_sharp Clock.exact_measures, Session.run_sharp Clock.inSeconds_measures⟩

namespace Tripped

/-- A breaker that one failure has opened. -/
def opened (now : τ) : Cell τ := ⟨Config.brittle.key, .brittle, ⟨.opened, 0, some now, 0, 1⟩⟩

theorem cell?_fail (w : World τ σ) :
    ((Session.start w .brittle).run [.fail]).cell? = some (opened w.now) :=
  Breaker.cell?_advance (Session.cell?_start w .brittle) _

theorem steady_fail (w : World τ σ) :
    Steady (Session.start w .brittle).world ((Session.start w .brittle).run [.fail]).world :=
  moves_advance _ _ _

/-- A breaker that has just opened, in whole seconds. -/
def session : Session Number Unit := (Session.start (.start 0 ()) .brittle).run [.fail]

/-- A breaker that opened a third of a millisecond ago. -/
def later : Session ℚ Unit :=
  (Session.start (.start 0 ()) .brittle).run [.fail, .pass (1 / 3000)]

end Tripped

open Tripped in
/-- A call is let in a second after the breaker opened for a second, and else once it has waited as
it was told. -/
theorem admission_exact_tripped :
    ((∃ ms, session.Refuses (opened 0) (some ms)) ∧ (session.perform (.pass 1)).Admits) ∧
    ∃ ms, ms ≤ 1000 ∧ later.Refuses (opened 0) (some ms) ∧
      (later.perform (.pass (1 / 3000 + ms / 1000))).Admits := by
  constructor
  · obtain ⟨c, n, hc, -, hsharp⟩ := admission_exact.1 (.start 0 ()) .brittle [.fail]
    have hcell : session.cell? = some (opened 0) := cell?_fail _
    obtain rfl := Option.some.inj (hcell.symm.trans hc)
    have hsteady := steady_fail (.start 0 () : World Number Unit)
    have hg : session.Gauged Clock.Exact (opened 0) 2 (1000 : Int) (0 : Int) (0 : Int) := by
      refine ⟨rfl, hsteady.delivers (fun f h => by cases h), rfl, fun at₀ hat => ?_⟩
      obtain rfl := Option.some.inj hat
      have hnow : session.world.now = 0 := hsteady.now
      rw [hnow]
      exact ⟨Clock.exact_whole 1000 0 0, le_rfl⟩
    have hs := hsharp _ _ _ _ hg
    obtain ⟨r, hr⟩ := hs.refuses_iff.2 (Or.inl ⟨rfl, by norm_num⟩)
    obtain ⟨ms, rfl, -, hms⟩ := hs.opened rfl r hr
    refine ⟨⟨ms, hr⟩, ?_⟩
    obtain ⟨hadmits, -⟩ := hs.waited ms hr 0 rfl 1 (1 : Int) (Clock.exact_whole 1000 0 1) (by simp)
    apply hadmits
    have hceil : ⌈((1000 : Int) : ℚ)⌉₊ = 1000 := Nat.ceil_intCast 1000
    have hle : (ms : ℚ) ≤ 1000 := by exact_mod_cast hceil ▸ hms
    simpa using hle
  · obtain ⟨c, n, hc, -, hsharp⟩ := admission_exact.2 (.start 0 ()) .brittle
      [.fail, .pass (1 / 3000)]
    have hcell : later.cell? = some (opened 0) := cell?_fail (.start 0 () : World ℚ Unit)
    obtain rfl := Option.some.inj (hcell.symm.trans hc)
    have hg : later.Gauged Clock.InSeconds (opened 0) 2 1000 0 (1 / 3000) := by
      have hsteady := steady_fail (.start 0 () : World ℚ Unit)
      refine ⟨rfl, hsteady.delivers (fun f h => by cases h), rfl, fun at₀ hat => ?_⟩
      obtain rfl := Option.some.inj hat
      exact ⟨⟨rfl, rfl, rfl⟩, by norm_num⟩
    have hs := hsharp _ _ _ _ hg
    obtain ⟨r, hr⟩ := hs.refuses_iff.2 (Or.inl ⟨rfl, by norm_num⟩)
    obtain ⟨ms, rfl, -, hms⟩ := hs.opened rfl r hr
    have hceil : ⌈(1000 : ℚ)⌉₊ = 1000 := Nat.ceil_natCast 1000
    refine ⟨ms, hceil ▸ hms, hr, ?_⟩
    obtain ⟨hadmits, -⟩ := hs.waited ms hr 0 rfl _ (1 / 3000 + ms / 1000) ⟨rfl, rfl, rfl⟩
      (by linarith [(Nat.cast_nonneg ms : (0 : ℚ) ≤ ms)])
    apply hadmits
    linarith

end Breaker

end ResilientCalls
