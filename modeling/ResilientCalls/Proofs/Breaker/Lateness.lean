import ResilientCalls.Proofs.Breaker.Changes

namespace ResilientCalls.Breaker

variable {τ σ : Type}

/-- A step of one of several attempts, each known by the place of its ticket, or the passing of
time. -/
inductive Act (τ : Type) where
  | begins
  | reports (place : Nat) (well : Bool)
  | ends (place : Nat)
  | passes (now : τ)
  deriving DecidableEq

namespace Act

/-- What a step asks of the breaker. An outcome does not tell whose it is. -/
def use : Act τ → Use τ
  | begins => .enter
  | reports _ true => .succeed
  | reports _ false => .fail
  | ends place => .release place
  | passes now => .pass now

def isReportOf (place : Nat) : Act τ → Bool
  | reports other _ => other = place
  | _ => false

def isEndOf (place : Nat) : Act τ → Bool
  | ends other => other = place
  | _ => false

end Act

namespace Overlap

def session : Session Number Unit := .start (.start 0 ()) .brittle

/-- Of two attempts that are admitted while the breaker is closed, the second one fails and opens
it. A second later a probe begins the window in which the first one is still at work. -/
def slow : List (Act Number) :=
  [.begins, .begins, .reports 1 false, .ends 1, .passes 1, .begins]

/-- Of two probes of that window the first one fails. A second later another window has begun, in
which the second one is still at work. -/
def slower : List (Act Number) :=
  slow ++ [.begins, .reports 2 false, .ends 2, .passes 2, .begins]

end Overlap

variable [Clock τ]

namespace Session

def attend (h : Session τ σ) (as : List (Act τ)) : Session τ σ := h.run (as.map Act.use)

theorem attend_append (h : Session τ σ) (as bs : List (Act τ)) :
    h.attend (as ++ bs) = (h.attend as).attend bs := by
  rw [attend, List.map_append, run_append]
  rfl

/-- May a step be next? An attempt that was admitted reports once, and ends once after that. -/
def admits (h : Session τ σ) (done : List (Act τ)) : Act τ → Bool
  | .reports place _ => place < (h.attend done).tickets.length && !done.any (·.isReportOf place)
  | .ends place => done.any (·.isReportOf place) && !done.any (·.isEndOf place)
  | _ => true

/-- Do all attempts follow the protocol? -/
def orderly (h : Session τ σ) (done : List (Act τ)) : List (Act τ) → Bool
  | [] => true
  | a :: rest => h.admits done a && h.orderly (done ++ [a]) rest

theorem attend_config {h : Session τ σ} {c : Cell τ} (hc : h.cell? = some c) (as : List (Act τ)) :
    ∃ c', (h.attend as).cell? = some c' ∧ c'.config = c.config := by
  refine run_induction (P := fun c' _ => c'.config = c.config) hc rfl ?_
  intro u hu now c₁ ts c₂ ts' h₁ ht
  obtain ⟨a, -, rfl⟩ := List.mem_map.1 hu
  generalize hua : a.use = u at ht
  cases ht with
  | configured k _ => rcases a with _ | ⟨_, _ | _⟩ | _ | _ <;> cases hua
  | _ => exact h₁

/-- Until an outcome is reported, a half open breaker stays in its window. -/
theorem attend_undecided {h : Session τ σ} {c : Cell τ} (hc : h.cell? = some c)
    (hp : c.state.phase = .halfOpen) {as : List (Act τ)}
    (has : ∀ place well, .reports place well ∉ as) :
    ∃ c', (h.attend as).cell? = some c' ∧ c'.state.phase = .halfOpen ∧
      c'.state.transitions = c.state.transitions := by
  refine run_induction (P := fun c' _ => c'.state.phase = .halfOpen ∧
    c'.state.transitions = c.state.transitions) hc ⟨hp, rfl⟩ ?_
  intro u hu now c₁ ts c₂ ts' h₁ ht
  obtain ⟨a, ha, rfl⟩ := List.mem_map.1 hu
  have hchange := Change.of_turn ht
  cases a with
  | begins =>
    generalize c₂.state = s at hchange
    cases hchange with
    | stayed _ => exact h₁
    | probed _ _ ho _ => simp [h₁.1] at ho
    | joined _ _ _ => exact h₁
  | reports place well => exact absurd ha (has place well)
  | ends place =>
    generalize c₂.state = s at hchange
    cases hchange with
    | freedNothing _ => exact h₁
    | freed _ => exact h₁
  | passes now =>
    generalize c₂.state = s at hchange
    cases hchange with
    | passed _ => exact h₁

/-- While a breaker that is switched on is half open, the first outcome decides, whichever attempt
it is of: a success closes the breaker, and a failure opens it again. Nothing else decides, and an
attempt that was admitted in an earlier window frees no slot of the current one. -/
theorem outcome_decides (w : World τ σ) (config : Config) (hen : config.isEnabled = true)
    (as : List (Act τ)) {c : Cell τ} (hc : ((start w config).attend as).cell? = some c)
    (hp : c.state.phase = .halfOpen) :
    let h := (start w config).attend as
    (∀ place, (h.attend [.reports place true]).cell? =
      some { c with state := ⟨.closed, 0, none, 0, c.state.transitions + 1⟩ }) ∧
    (∀ place, (h.attend [.reports place false]).cell? =
      some { c with state := ⟨.opened, 0, some h.world.now, 0, c.state.transitions + 1⟩ }) ∧
    (∀ bs, (∀ place well, .reports place well ∉ bs) →
      ∃ c', (h.attend bs).cell? = some c' ∧ c'.state.phase = .halfOpen ∧
        c'.state.transitions = c.state.transitions) ∧
    ∀ vs bs c₀ place, as = vs ++ bs → ((start w config).attend vs).cell? = some c₀ →
      c₀.state.transitions < c.state.transitions →
      place < ((start w config).attend vs).tickets.length →
      (h.attend [.ends place]).cell? = some c := by
  intro h
  obtain ⟨c₁, hc₁, hconfig⟩ := attend_config (cell?_start w config) as
  obtain rfl : c = c₁ := Option.some.inj (hc.symm.trans hc₁)
  have hon : c.config.isEnabled = true := by rw [hconfig]; exact hen
  refine ⟨fun place => ?_, fun place => ?_, fun bs => attend_undecided hc hp, ?_⟩
  · have hstep := cell?_advance (w := h.world) hc State.recordSuccess
    rw [State.recordSuccess_of_halfOpen hon hp] at hstep
    exact hstep
  · have hstep := cell?_advance (w := h.world) hc State.recordFailure
    rw [State.recordFailure_of_halfOpen hon hp] at hstep
    exact hstep
  · intro vs bs c₀ place has hc₀ hlt hplace
    obtain ⟨c₂, hc₂, ha⟩ := run_accounted w config (vs.map Act.use)
    obtain rfl : c₀ = c₂ := Option.some.inj (hc₀.symm.trans hc₂)
    have hlater : (start w config).attend as =
        ((start w config).attend vs).run (bs.map Act.use) := by
      rw [has, attend_append]
      rfl
    show (((start w config).attend as).perform (.release place)).cell? = some c
    rw [hlater] at hc ⊢
    refine cell?_release_later hc₀ hc (List.getElem?_eq_getElem hplace) ?_
    intro t hw _ _
    cases ho : t.isOut c.state.transitions with
    | false => rfl
    | true =>
      -- what was given out by then is of a window that had begun by then
      have hwindow := hw.symm.trans (Ticket.isOut_eq_true_iff.1 ho).1
      have hbegun := ha.begun _ (List.getElem_mem hplace) _ hwindow
      omega

open Overlap in
/-- The outcome of an attempt from before the window closes the breaker, or opens it again. -/
theorem outcome_decides_slow :
    Config.brittle.isEnabled = true ∧ ∃ c, (session.attend slow).cell? = some c ∧
      c.state = ⟨.halfOpen, 0, none, 1, 2⟩ ∧
      ((session.attend slow).attend [.reports 0 true]).cell? =
        some { c with state := ⟨.closed, 0, none, 0, 3⟩ } ∧
      ((session.attend slow).attend [.reports 0 false]).cell? =
        some { c with state := ⟨.opened, 0, some 1, 0, 3⟩ } := by
  have hen : Config.brittle.isEnabled = true := rfl
  have hstate : (session.attend slow).cell?.map (·.state) =
      some ⟨.halfOpen, 0, none, 1, 2⟩ := by decide +kernel
  have hnow : (session.attend slow).world.now = 1 := by decide +kernel
  obtain ⟨c, hc, hs⟩ := Option.map_eq_some_iff.1 hstate
  have hp : c.state.phase = .halfOpen := by rw [hs]
  have hcount : c.state.transitions = 2 := by rw [hs]
  obtain ⟨hwell, hbadly, -, -⟩ := outcome_decides (World.start 0 ()) .brittle hen slow hc hp
  rw [hcount] at hwell hbadly
  refine ⟨hen, c, hc, hs, hwell 0, ?_⟩
  have hopened := hbadly 0
  rw [← hnow]
  exact hopened

open Overlap in
/-- An attempt that was admitted while the breaker was closed closes a half open one, and an attempt
of an earlier window opens one again, though both follow the protocol. -/
theorem late_outcomes_decide :
    (session.orderly [] (slow ++ [.reports 0 true]) = true ∧
      (session.attend slow).phase? = some .halfOpen ∧
      (session.attend slow).tickets[0]? = some ⟨none, false⟩ ∧
      (session.attend (slow ++ [.reports 0 true])).phase? = some .closed) ∧
    session.orderly [] (slower ++ [.reports 3 false]) = true ∧
    (session.attend slower).phase? = some .halfOpen ∧
    (session.attend slower).cell?.map (·.state.transitions) = some 4 ∧
    (session.attend slower).tickets[3]? = some ⟨some 2, false⟩ ∧
    (session.attend (slower ++ [.reports 3 false])).phase? = some .opened := by
  decide +kernel

end Session

end ResilientCalls.Breaker
