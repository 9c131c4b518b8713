import Mathlib.Data.List.DropRight
import ResilientCalls.Proofs.Breaker.Allowance

namespace ResilientCalls.Breaker

variable {τ σ : Type}

/-- How many outcomes at the end are failures. -/
def trailing (outcomes : List Bool) : Nat := (outcomes.rtakeWhile (!·)).length

@[simp] theorem trailing_append_true (os : List Bool) : trailing (os ++ [true]) = 0 := by
  rw [trailing, List.rtakeWhile_concat_neg _ _ _ (by simp), List.length_nil]

@[simp] theorem trailing_append_false (os : List Bool) :
    trailing (os ++ [false]) = trailing os + 1 := by
  rw [trailing, List.rtakeWhile_concat_pos _ _ _ (by simp), List.length_append]
  rfl

theorem replicate_suffix_iff (n : Nat) (os : List Bool) :
    List.replicate n false <:+ os ↔ n ≤ trailing os := by
  induction os using List.reverseRecOn generalizing n with
  | nil => simp [trailing]
  | append_singleton os o ih =>
    cases n with
    | zero => simp
    | succ n => cases o <;> simp [List.suffix_concat_iff, List.replicate_succ', ih]

/-- A success ends no run of failures that was not there before. -/
theorem replicate_infix_append_true {n : Nat} (hn : 0 < n) (os : List Bool) :
    List.replicate n false <:+: os ++ [true] ↔ List.replicate n false <:+: os := by
  rw [List.infix_concat_iff, replicate_suffix_iff, trailing_append_true]
  simp [Nat.not_le.2 hn]

theorem replicate_infix_append_false {n : Nat} {os : List Bool}
    (h : ¬ List.replicate n false <:+: os) :
    List.replicate n false <:+: os ++ [false] ↔ n ≤ trailing os + 1 := by
  rw [List.infix_concat_iff, replicate_suffix_iff, trailing_append_false]
  simp [h]

/-- The outcome that a use reports, true for a success. -/
def Use.outcome? : Use τ → Option Bool
  | .succeed => some true
  | .fail => some false
  | _ => none

def Use.isReset : Use τ → Bool
  | .reset => true
  | _ => false

def outcomes (us : List (Use τ)) : List Bool := us.filterMap Use.outcome?

theorem outcomes_append (us : List (Use τ)) (u : Use τ) :
    outcomes (us ++ [u]) = outcomes us ++ u.outcome?.toList := by
  rw [outcomes, List.filterMap_append]
  cases h : u.outcome? <;> simp [outcomes, h]

/-- A use with what is seen of the breaker as it is made. -/
structure Moment (τ : Type) where
  use : Use τ
  enabled : Bool
  before : Option Phase
  after : Option Phase

namespace Moment

/-- Counting begins anew: the breaker comes to be closed, is reset, or is told of a success. -/
def clears (m : Moment τ) : Bool :=
  (m.before ≠ some .closed && m.after = some .closed) || m.use.isReset ||
    (m.enabled && m.use.outcome? = some true)

def counts (m : Moment τ) : Bool := m.enabled && m.use.outcome? = some false

end Moment

namespace Session

variable [Clock τ]

def isEnabled (h : Session τ σ) : Bool := h.cell?.any (·.config.isEnabled)

def moment (h : Session τ σ) (u : Use τ) : Moment τ :=
  ⟨u, h.isEnabled, h.phase?, (h.perform u).phase?⟩

/-- The moments of a session, oldest first. -/
def moments (h : Session τ σ) : List (Use τ) → List (Moment τ)
  | [] => []
  | u :: us => h.moment u :: (h.perform u).moments us

/-- The failures that are reported while the breaker is enabled, since counting last began anew. -/
def streak (h : Session τ σ) (us : List (Use τ)) : Nat :=
  ((h.moments us).rtakeWhile (!·.clears)).countP (·.counts)

theorem moments_append (h : Session τ σ) (us : List (Use τ)) (u : Use τ) :
    h.moments (us ++ [u]) = h.moments us ++ [(h.run us).moment u] := by
  induction us generalizing h with
  | nil => rfl
  | cons v us ih => exact congrArg (h.moment v :: ·) (ih (h.perform v))

theorem streak_append (h : Session τ σ) (us : List (Use τ)) (u : Use τ) :
    h.streak (us ++ [u]) = if ((h.run us).moment u).clears then 0
      else h.streak us + if ((h.run us).moment u).counts then 1 else 0 := by
  rw [streak, moments_append]
  cases hm : ((h.run us).moment u).clears with
  | true => rw [List.rtakeWhile_concat_neg _ _ _ (by simp [hm]), List.countP_nil, if_pos rfl]
  | false =>
    rw [List.rtakeWhile_concat_pos _ _ _ (by simp [hm]), List.countP_append, List.countP_singleton]
    rfl

end Session

variable [Clock τ]

namespace Change

variable {now : τ} {k : Config} {s s' : State τ} {u : Use τ}

/-- A closed breaker stays so but at a failure that reaches the threshold. -/
theorem leaves_closed_iff (hc : Change now k s u s') (hp : s.phase = .closed) :
    s'.phase ≠ .closed ↔
      u = .fail ∧ k.isEnabled = true ∧ s.failures.next.reaches k.threshold = true := by
  cases hc with
  | tripped hen _ hr => simp [hen, hr]
  | counted _ _ hr => simp [hp, hr]
  | failureIgnored hi => simpa [hp] using fun hen => absurd (hi hen) (by simp [hp])
  | probed _ _ hs _ | joined _ hs _ | recovered _ hs | relapsed _ hs => simp [hs] at hp
  | resetOther hs => exact absurd hp hs
  | checked | passed _ | configured _ | stayed _ | freedNothing _ | freed _ | successIgnored _
  | cleared _ _ | resetClosed _ => simp [hp]

theorem failures_of_closed (hc : Change now k s u s') {n : Nat}
    (hn : s.phase = .closed → s.failures = .whole n) (hp : s'.phase = .closed) {m : Moment τ}
    (hm : m = ⟨u, k.isEnabled, some s.phase, some s'.phase⟩) :
    s'.failures = .whole (if m.clears then 0 else n + if m.counts then 1 else 0 : Nat) := by
  subst hm
  cases hc with
  | probed _ _ _ _ | tripped _ _ _ | relapsed _ _ => cases hp
  | joined _ hs _ => cases hp.symm.trans hs
  | cleared hen _ | recovered hen _ => simp [Moment.clears, Use.outcome?, hen]; rfl
  | resetClosed _ | resetOther _ => simp [Moment.clears, Use.isReset]; rfl
  | counted hen _ _ =>
    simp [Moment.clears, Moment.counts, Use.isReset, Use.outcome?, hen, hn hp,
      Number.next_whole]
  | successIgnored hi | failureIgnored hi =>
    have hen : k.isEnabled = false := by
      by_contra hen
      simp [hi (by simpa using hen)] at hp
    simp [Moment.clears, Moment.counts, Use.isReset, hen, hp, hn hp]
  | checked | passed _ | configured _ | stayed _ | freedNothing _ | freed _ =>
    simp [Moment.clears, Moment.counts, Use.isReset, Use.outcome?, hp, hn hp]

end Change

/-- Where a breaker of one threshold stands after these outcomes: it has opened on a run of
failures, or it counts those at the end. -/
inductive Standing (threshold : Int) (outcomes : List Bool) (s : State τ) : Prop where
  | tripped : s.phase = .opened → List.replicate threshold.toNat false <:+: outcomes →
      Standing threshold outcomes s
  | counting : s.phase = .closed → ¬ List.replicate threshold.toNat false <:+: outcomes →
      s.failures = .whole (trailing outcomes) → Standing threshold outcomes s

namespace Standing

variable {threshold : Int} {os : List Bool} {now : τ} {k : Config} {s s' : State τ} {u : Use τ}

omit [Clock τ] in
theorem opened_iff (h : Standing threshold os s) :
    s.phase = .opened ↔ List.replicate threshold.toNat false <:+: os := by
  cases h with
  | tripped hp hi => exact iff_of_true hp hi
  | counting hp hi _ => exact iff_of_false (by simp [hp]) hi

omit [Clock τ] in
theorem counting_of_not_infix (h : Standing threshold os s)
    (hi : ¬ List.replicate threshold.toNat false <:+: os) :
    s.phase = .closed ∧ s.failures = .whole (trailing os) := by
  cases h with
  | tripped _ h => exact absurd h hi
  | counting hp _ hf => exact ⟨hp, hf⟩

omit [Clock τ] in
theorem succeeded (h : Standing threshold os s) (ht : 0 < threshold) (hs : s.phase = .closed) :
    Standing threshold (os ++ [true]) { s with failures := 0 } := by
  cases h with
  | tripped hp _ => simp [hs] at hp
  | counting _ hi _ =>
    refine .counting hs ?_ (by rw [trailing_append_true]; rfl)
    rwa [replicate_infix_append_true (by omega)]

omit [Clock τ] in
/-- The failure that reaches the threshold completes a run. -/
theorem reaches_iff (h : Standing threshold os s) (hk : k.threshold.value = .inl threshold)
    (hs : s.phase = .closed) :
    s.failures.next.reaches k.threshold = true ↔
      List.replicate threshold.toNat false <:+: os ++ [false] := by
  cases h with
  | tripped hp _ => simp [hs] at hp
  | counting _ hi hf =>
    rw [hf, Number.next_whole, Number.reaches_of_values rfl hk, replicate_infix_append_false hi,
      decide_eq_true_eq]
    omega

omit [Clock τ] in
theorem counted (h : Standing threshold os s) (hk : k.threshold.value = .inl threshold)
    (hs : s.phase = .closed) (hr : s.failures.next.reaches k.threshold = false) :
    Standing threshold (os ++ [false]) { s with failures := s.failures.next } := by
  refine .counting hs (fun hi => ?_) ?_
  · rw [(h.reaches_iff hk hs).2 hi] at hr
    cases hr
  · cases h with
    | tripped hp _ => simp [hs] at hp
    | counting _ _ hf =>
      rw [trailing_append_false, hf]
      rfl

omit [Clock τ] in
theorem append_of_opened (h : Standing threshold os s) (hp : s.phase = .opened) (more : List Bool) :
    Standing threshold (os ++ more) s :=
  .tripped hp (List.infix_append_of_infix_left (h.opened_iff.1 hp))

theorem change (h : Standing threshold os s) (ht : 0 < threshold) (hen : k.isEnabled = true)
    (hk : k.threshold.value = .inl threshold) (hreset : u.isReset = false)
    (hr : u = .enter → s.phase = .opened → s.remainingMs k now ≠ .ok 0)
    (hc : Change now k s u s') : Standing threshold (os ++ u.outcome?.toList) s' := by
  have hne : s.phase ≠ .halfOpen := by
    cases h with
    | tripped hp _ | counting hp _ _ => simp [hp]
  cases hc with
  | successIgnored hi | failureIgnored hi => exact h.append_of_opened (hi hen) _
  | cleared _ hs => exact h.succeeded ht hs
  | counted _ hs hf => exact h.counted hk hs hf
  | tripped _ hs hf => exact .tripped rfl ((h.reaches_iff hk hs).1 hf)
  | probed _ _ hs hz => exact absurd hz (hr rfl hs)
  | joined _ hs _ | recovered _ hs | relapsed _ hs => exact absurd hs hne
  | resetClosed _ | resetOther _ => cases hreset
  | checked | passed _ | configured _ | stayed _ | freedNothing _ =>
    simpa [Use.outcome?] using h
  | freed _ =>
    rw [show (Use.release _ : Use τ).outcome? = none from rfl, Option.toList_none, List.append_nil]
    cases h with
    | tripped hp hi => exact .tripped hp hi
    | counting hp hi hf => exact .counting hp hi hf

end Standing

namespace Session

/-- The breaker is open, and nothing is left of its window. -/
def Elapsed (h : Session τ σ) : Prop :=
  ∃ c, h.cell? = some c ∧ c.state.phase = .opened ∧
    c.state.remainingMs c.config h.world.now = .ok 0

/-- A breaker that stays enabled under one threshold is not reset, and is not asked for admission
once its window has passed. -/
structure Plain (h : Session τ σ) (threshold : Int) (us : List (Use τ)) : Prop where
  unreset : ∀ u ∈ us, u.isReset = false
  fixed : ∀ k, Use.configure k ∈ us → k.isEnabled = true ∧ k.threshold.value = .inl threshold
  unprobed : ∀ vs, vs ++ [.enter] <+: us → ¬ (h.run vs).Elapsed

theorem Plain.of_append {h : Session τ σ} {threshold : Int} {us vs : List (Use τ)}
    (hp : h.Plain threshold (us ++ vs)) : h.Plain threshold us where
  unreset u hu := hp.unreset u (List.mem_append_left _ hu)
  fixed k hk := hp.fixed k (List.mem_append_left _ hk)
  unprobed ws hws := hp.unprobed ws (hws.trans (List.prefix_append us vs))

theorem run_streak (w : World τ σ) (config : Config) (us : List (Use τ)) :
    ∃ c, ((start w config).run us).cell? = some c ∧
      (c.state.phase = .closed → c.state.failures = .whole ((start w config).streak us)) := by
  refine run_history (P := fun us c => c.state.phase = .closed →
    c.state.failures = .whole ((start w config).streak us)) (cell?_start w config)
    (fun _ => rfl) ?_ us
  intro us u c c' hc hc' h ht hp
  have hmoment : ((start w config).run us).moment u =
      ⟨u, c.config.isEnabled, some c.state.phase, some c'.state.phase⟩ := by
    have hafter : (((start w config).run us).perform u).cell? = some c' := by
      rw [← hc', run_append]
      rfl
    rw [moment, isEnabled, hc, phase?_of_cell? hc, phase?_of_cell? hafter, Option.any_some]
  rw [streak_append]
  exact (Change.of_turn ht).failures_of_closed h hp hmoment

/-- A plain run leaves the breaker where its outcomes put it. -/
theorem run_standing (w : World τ σ) {config : Config} (hen : config.isEnabled = true)
    {threshold : Int} (hk : config.threshold.value = .inl threshold) {us : List (Use τ)}
    (hp : (start w config).Plain threshold us) :
    ∃ c, ((start w config).run us).cell? = some c ∧ Standing threshold (outcomes us) c.state := by
  have hpos : 0 < threshold := by
    have hr := config.threshold_inRange
    rw [Number.isBelow_of_values hk (n := 1) rfl, decide_eq_false_iff_not] at hr
    omega
  -- what comes before the last use of a plain run is one too, so it may be assumed of each part
  have hrun := run_history (h := start w config) (P := fun us c =>
    (start w config).Plain threshold us → c.config.isEnabled = true ∧
      c.config.threshold.value = .inl threshold ∧ Standing threshold (outcomes us) c.state)
    (cell?_start w config) ?_ ?_ us
  · obtain ⟨c, hc, h⟩ := hrun
    exact ⟨c, hc, (h hp).2.2⟩
  · intro _
    refine ⟨hen, hk, .counting rfl ?_ rfl⟩
    rw [outcomes, List.filterMap_nil, List.infix_nil, List.replicate_eq_nil_iff]
    omega
  · intro us u c c' hc hc' h ht hp
    obtain ⟨hen, hk, hs⟩ := h hp.of_append
    have hfixed : c'.config.isEnabled = true ∧ c'.config.threshold.value = .inl threshold := by
      rcases ht.config_eq with ⟨k, rfl, -, he⟩ | ⟨-, he⟩
      · rw [he]
        exact hp.fixed k (by simp)
      · rw [he]
        exact ⟨hen, hk⟩
    refine ⟨hfixed.1, hfixed.2, ?_⟩
    rw [outcomes_append]
    refine hs.change hpos hen hk (hp.unreset u (by simp)) ?_ (.of_turn ht)
    rintro rfl ho hr
    exact hp.unprobed us List.prefix_rfl ⟨c, hc, ho, hr⟩

/-- While a breaker is closed, its count of failures is that of the failures reported while it was
enabled, since it last came to be closed, was reset, or was told of a success while enabled. It
leaves that phase just at a failure that, counted in, reaches the threshold in force. In a plain run
it ends open just when so many outcomes in a row were failures, and counts those at the end if not.
-/
theorem failures_in_a_row (w : World τ σ) (config : Config) :
    (∀ us, ∃ c, ((start w config).run us).cell? = some c ∧ (c.state.phase = .closed →
      c.state.failures = .whole ((start w config).streak us) ∧
      ∀ u, ((start w config).run (us ++ [u])).phase? ≠ some .closed ↔
        u = .fail ∧ c.config.isEnabled = true ∧
          (Number.whole ((start w config).streak us + 1)).reaches c.config.threshold = true)) ∧
    ∀ us threshold, config.isEnabled = true → config.threshold.value = .inl threshold →
      (start w config).Plain threshold us →
      ∃ c, ((start w config).run us).cell? = some c ∧
        (c.state.phase = .opened ↔ List.replicate threshold.toNat false <:+: outcomes us) ∧
        (¬ List.replicate threshold.toNat false <:+: outcomes us →
          c.state.phase = .closed ∧ c.state.failures = .whole (trailing (outcomes us))) := by
  refine ⟨fun us => ?_, fun us threshold hen hk hplain => ?_⟩
  · obtain ⟨c, hc, hf⟩ := run_streak w config us
    refine ⟨c, hc, fun hp => ⟨hf hp, fun u => ?_⟩⟩
    obtain ⟨c', hc', ht⟩ := turn_of_perform hc u
    have hafter : ((start w config).run (us ++ [u])).phase? = some c'.state.phase := by
      rw [run_append]
      exact phase?_of_cell? hc'
    rw [hafter, ← Number.next_whole, ← hf hp, ← (Change.of_turn ht).leaves_closed_iff hp]
    simp
  · obtain ⟨c, hc, hs⟩ := run_standing w hen hk hplain
    exact ⟨c, hc, hs.opened_iff, hs.counting_of_not_infix⟩

namespace Lenient

def initial : World Number Unit := World.start 0 ()

/-- Three failures open it. -/
def config : Config :=
  { Config.brittle with threshold := .whole 3, threshold_inRange := by decide }

/-- A call is let in, and fails, then one succeeds, and two fail. -/
def uses : List (Use Number) := [.enter, .fail, .succeed, .fail, .fail]

theorem plain : (start initial config).Plain 3 uses where
  unreset := by decide
  fixed k hk := by simp [uses] at hk
  unprobed vs hvs := by
    rintro ⟨c, hc, hp, -⟩
    cases vs with
    | nil =>
      obtain rfl := Option.some.inj ((cell?_start _ config).symm.trans hc)
      cases hp
    | cons v vs =>
      have hrest : Use.enter ∈ uses.tail :=
        (List.cons_prefix_cons.1 hvs).2.subset (List.mem_append_right _ (List.mem_singleton_self _))
      simp [uses] at hrest

end Lenient

open Lenient in
/-- Three failures, but not in a row, leave a breaker closed that three in a row would open. -/
theorem failures_in_a_row_lenient :
    config.isEnabled = true ∧ config.threshold.value = .inl 3 ∧
    (start initial config).Plain 3 uses ∧
    ∃ c, ((start initial config).run uses).cell? = some c ∧
      c.state.phase = .closed ∧ c.state.failures = .whole 2 ∧
      ((start initial config).run (uses ++ [.fail])).phase? ≠ some .closed := by
  obtain ⟨hrun, hplain⟩ := failures_in_a_row initial config
  obtain ⟨c, hc, -, hcounting⟩ := hplain uses 3 rfl rfl plain
  obtain ⟨hp, hf⟩ := hcounting (by decide)
  obtain ⟨c', hc', hstreak⟩ := hrun uses
  obtain rfl : c = c' := Option.some.inj (hc.symm.trans hc')
  obtain ⟨hs, hleaves⟩ := hstreak hp
  have hkept : ((start initial config).run uses).cell?.map
      (fun c => (c.config.isEnabled, c.config.threshold)) = some (true, .whole 3) := by
    decide +kernel
  rw [hc, Option.map_some, Option.some.injEq, Prod.mk.injEq] at hkept
  obtain ⟨hen, hk⟩ := hkept
  refine ⟨rfl, rfl, plain, c, hc, hp, hf, (hleaves .fail).2 ⟨rfl, hen, ?_⟩⟩
  rw [hk]
  decide +kernel

end Session

end ResilientCalls.Breaker
