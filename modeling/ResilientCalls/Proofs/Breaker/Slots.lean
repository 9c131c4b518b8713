import Mathlib.Data.Nat.Basic
import Mathlib.Order.Basic
import ResilientCalls.Proofs.Breaker.Session
import ResilientCalls.Proofs.Number

namespace ResilientCalls

namespace Breaker

variable {τ σ : Type}

/-- Is the ticket's slot one of a window, and not yet given back? -/
def Ticket.isOut (t : Ticket) (window : Nat) : Bool := t.window = some window && !t.used

/-- How many slots of a window are out. -/
def outstanding (window : Nat) (ts : List Ticket) : Nat := ts.countP (·.isOut window)

/-- A ticket that can free no slot any more. -/
def Ticket.IsSpent (t : Ticket) : Prop := t.window = none ∨ t.used = true

theorem Ticket.IsSpent.isOut_eq_false {t : Ticket} (h : t.IsSpent) (window : Nat) :
    t.isOut window = false := by
  rcases h with h | h <;> simp [Ticket.isOut, h]

theorem Ticket.isOut_eq_true_iff {t : Ticket} {window : Nat} :
    t.isOut window = true ↔ t.window = some window ∧ t.used = false := by
  simp [Ticket.isOut]

namespace State

variable {s : State τ} {t : Ticket} {now : τ}

theorem release_of_isOut (h : t.isOut s.transitions = true) :
    s.release t = ({ s with inFlight := s.inFlight.previous }, { t with used := true }) := by
  obtain ⟨hw, hu⟩ := Ticket.isOut_eq_true_iff.1 h
  simp [release, hw, hu]

theorem release_of_not_isOut (h : t.isOut s.transitions = false) : (s.release t).1 = s := by
  unfold release
  split
  · rfl
  · rename_i window hw
    split
    · rfl
    · rename_i hu
      have hne : s.transitions ≠ window := by
        rintro rfl
        simp [Ticket.isOut, hw, hu] at h
      rw [if_pos hne]

theorem release_window (s : State τ) (t : Ticket) : (s.release t).2.window = t.window := by
  unfold release
  split
  · rfl
  · split_ifs <;> rfl

theorem release_isSpent (s : State τ) (t : Ticket) : (s.release t).2.IsSpent := by
  unfold release
  split
  · exact Or.inl ‹_›
  · split_ifs with hu
    · exact Or.inr hu
    · exact Or.inr rfl
    · exact Or.inr rfl

theorem release_transitions (s : State τ) (t : Ticket) :
    (s.release t).1.transitions = s.transitions := by
  cases h : t.isOut s.transitions with
  | true => rw [release_of_isOut h]
  | false => rw [release_of_not_isOut h]

theorem release_phase (s : State τ) (t : Ticket) : (s.release t).1.phase = s.phase := by
  cases h : t.isOut s.transitions with
  | true => rw [release_of_isOut h]
  | false => rw [release_of_not_isOut h]

theorem move_of_eq (now : τ) {phase : Phase} (h : s.phase = phase) : s.move now phase = (s, []) :=
  if_pos h

/-- A change of phase begins a new window, in which nothing has been counted yet. -/
theorem move_of_ne (now : τ) {phase : Phase} (h : s.phase ≠ phase) :
    (s.move now phase).1 =
      ⟨phase, 0, if phase = .opened then some now else none, 0, s.transitions + 1⟩ := by
  rw [move, if_neg h]

theorem probe_of_ne (now : τ) (h : s.phase ≠ .opened) : s.probe now = (s, []) := if_neg h

theorem probe_of_opened (now : τ) (h : s.phase = .opened) :
    (s.probe now).1 = ⟨.halfOpen, 0, none, 0, s.transitions + 1⟩ := by
  rw [probe, if_pos h, move_of_ne now (by simp [h])]
  rfl

/-- What became of a state by steps that leave no slot taken and none given back: the probes are
counted as before, or not at all in a later window. -/
inductive Settles (s s' : State τ) : Prop where
  | kept : s'.transitions = s.transitions → s'.inFlight = s.inFlight → Settles s s'
  | renewed : s.transitions < s'.transitions → s'.inFlight = 0 → Settles s s'

namespace Settles

variable {s' s'' : State τ}

theorem refl (s : State τ) : Settles s s := .kept rfl rfl

theorem transitions_le (h : Settles s s') : s.transitions ≤ s'.transitions := by
  cases h with
  | kept ht _ => exact ht.ge
  | renewed ht _ => exact ht.le

theorem inFlight (h : Settles s s') : s'.inFlight = s.inFlight ∨ s'.inFlight = 0 := by
  cases h with
  | kept _ hn => exact Or.inl hn
  | renewed _ hn => exact Or.inr hn

theorem trans (h : Settles s s') (h' : Settles s' s'') : Settles s s'' := by
  have hle := h.transitions_le
  cases h' with
  | kept ht hn =>
    cases h with
    | kept ht₀ hn₀ => exact .kept (ht.trans ht₀) (hn.trans hn₀)
    | renewed ht₀ hn₀ => exact .renewed (ht ▸ ht₀) (hn.trans hn₀)
  | renewed ht hn => exact .renewed (hle.trans_lt ht) hn

end Settles

variable (s) (k : Config) (now)

theorem move_settles (phase : Phase) : Settles s (s.move now phase).1 := by
  by_cases h : s.phase = phase
  · rw [move_of_eq now h]
    exact .refl s
  · rw [move_of_ne now h]
    exact .renewed (Nat.lt_succ_self _) rfl

theorem probe_settles : Settles s (s.probe now).1 := by
  unfold probe
  split_ifs
  · exact move_settles s now _
  · exact .refl s

theorem recordSuccess_settles : Settles s (s.recordSuccess k now).1 := by
  unfold recordSuccess
  split_ifs
  · exact .refl s
  · split
    · exact move_settles s now _
    · exact .kept rfl rfl
    · exact .refl s

theorem recordFailure_settles : Settles s (s.recordFailure k now).1 := by
  unfold recordFailure
  split_ifs
  · exact .refl s
  · split
    · exact move_settles s now _
    · dsimp only
      have hs : Settles s { s with failures := s.failures.next } := .kept rfl rfl
      split_ifs
      · exact hs.trans (move_settles _ now _)
      · exact hs
    · exact .refl s

theorem reset_settles : Settles s (s.reset now).1 := by
  have hs : Settles (s.move now .closed).1 (s.reset now).1 := .kept rfl rfl
  exact (move_settles s now _).trans hs

theorem take_transitions : s.take.1.transitions = s.transitions := by
  unfold take
  split_ifs <;> rfl

theorem take_phase : s.take.1.phase = s.phase := by
  unfold take
  split_ifs <;> rfl

variable {s k now}

theorem remainingMs_of_granted [Clock τ] (hen : k.isEnabled = true) (hp : s.phase = .opened)
    (hv : s.verdict k now = .ok .granted) : s.remainingMs k now = .ok 0 := by
  simp only [verdict, hen, hp, Bool.not_true, Bool.false_eq_true, if_false] at hv
  split at hv
  · cases hv
  · assumption
  · cases hv

theorem reaches_of_granted [Clock τ] (hen : k.isEnabled = true) (hp : s.phase = .halfOpen)
    (hv : s.verdict k now = .ok .granted) : s.inFlight.reaches k.probes = false := by
  simp only [verdict, hen, hp, Bool.not_true, Bool.false_eq_true, if_false] at hv
  cases hr : s.inFlight.reaches k.probes with
  | true => simp [hr] at hv
  | false => rfl

end State

/-- The books of the slots: the number of probes is that of the tickets out, no ticket is of a
window yet to come, and tickets of the current window are those of probes. -/
structure Accounted (s : State τ) (ts : List Ticket) : Prop where
  counted : s.inFlight = .whole (outstanding s.transitions ts)
  begun : ∀ t ∈ ts, ∀ window, t.window = some window → window ≤ s.transitions
  probing : ∀ t ∈ ts, t.window = some s.transitions → s.phase = .halfOpen

namespace Accounted

variable {s : State τ} {ts : List Ticket}

theorem fresh : Accounted (.fresh : State τ) [] where
  counted := rfl
  begun := by simp
  probing := by simp

theorem with_failures (h : Accounted s ts) (n : Number) :
    Accounted { s with failures := n } ts := ⟨h.counted, h.begun, h.probing⟩

/-- A new window begins with no slot taken: no ticket is of a window that has yet to come. -/
theorem move (h : Accounted s ts) (now : τ) (phase : Phase) :
    Accounted (s.move now phase).1 ts := by
  by_cases hp : s.phase = phase
  · rw [State.move_of_eq now hp]
    exact h
  rw [State.move_of_ne now hp]
  have hnone : ∀ t ∈ ts, t.window ≠ some (s.transitions + 1) := by
    intro t ht hw
    have := h.begun t ht _ hw
    omega
  refine ⟨?_, ?_, ?_⟩
  · have hzero : outstanding (s.transitions + 1) ts = 0 := by
      refine List.countP_eq_zero.2 fun t ht => ?_
      simp [Ticket.isOut, hnone t ht]
    exact congrArg (fun n : Nat => Number.whole n) hzero.symm
  · intro t ht window hw
    exact (h.begun t ht window hw).trans (Nat.le_succ _)
  · intro t ht hw
    exact absurd hw (hnone t ht)

theorem add_slotless (h : Accounted s ts) : Accounted s (ts ++ [⟨none, false⟩]) := by
  refine ⟨?_, ?_, ?_⟩
  · rw [h.counted]
    simp [outstanding, Ticket.isOut, List.countP_append]
  · intro t ht window hw
    rcases List.mem_append.1 ht with ht | ht
    · exact h.begun t ht window hw
    · simp [List.mem_singleton.1 ht] at hw
  · intro t ht hw
    rcases List.mem_append.1 ht with ht | ht
    · exact h.probing t ht hw
    · simp [List.mem_singleton.1 ht] at hw

theorem take (h : Accounted s ts) : Accounted s.take.1 (ts ++ [s.take.2]) := by
  unfold State.take
  split_ifs with hp
  · refine ⟨?_, ?_, ?_⟩
    · have hone : outstanding s.transitions (ts ++ [⟨some s.transitions, false⟩]) =
          outstanding s.transitions ts + 1 := by
        simp [outstanding, Ticket.isOut, List.countP_append]
      show s.inFlight.next = _
      rw [h.counted, Number.next_whole, hone]
      rfl
    · intro t ht window hw
      rcases List.mem_append.1 ht with ht | ht
      · exact h.begun t ht window hw
      · rw [List.mem_singleton.1 ht] at hw
        exact (Option.some.inj hw).ge
    · intro t _ _
      exact hp
  · exact h.add_slotless

theorem outstanding_set {ts : List Ticket} {place : Nat} {t : Ticket} (ht : ts[place]? = some t)
    (window : Nat) (t' : Ticket) :
    outstanding window (ts.set place t') + (if t.isOut window then 1 else 0) =
      outstanding window ts + (if t'.isOut window then 1 else 0) := by
  induction ts generalizing place with
  | nil => simp at ht
  | cons u ts ih =>
    cases place with
    | zero =>
      obtain rfl : u = t := by simpa using ht
      simp only [outstanding, List.set_cons_zero, List.countP_cons]
      omega
    | succ place =>
      have htail : ts[place]? = some t := by simpa using ht
      have hcount := ih htail
      simp only [outstanding, List.set_cons_succ, List.countP_cons] at hcount ⊢
      omega

theorem halfOpen (h : Accounted s ts) (hn : 0 < outstanding s.transitions ts) :
    s.phase = .halfOpen := by
  obtain ⟨t, ht, ho⟩ := List.countP_pos_iff.1 hn
  exact h.probing t ht (Ticket.isOut_eq_true_iff.1 ho).1

/-- A ticket that is out stands for one of the slots counted. -/
theorem inFlight_pos (h : Accounted s ts) {place : Nat} {t : Ticket} (ht : ts[place]? = some t)
    (ho : t.isOut s.transitions = true) :
    ∃ n : Nat, s.inFlight = .whole (n + 1) ∧
      outstanding s.transitions (ts.set place { t with used := true }) = n := by
  have hset := outstanding_set ht s.transitions { t with used := true }
  rw [if_pos ho, if_neg (by simp [Ticket.isOut])] at hset
  refine ⟨_, ?_, rfl⟩
  rw [h.counted, ← Nat.add_zero (outstanding _ ts), ← hset]
  rfl

theorem release (h : Accounted s ts) {place : Nat} {t : Ticket} (ht : ts[place]? = some t) :
    Accounted (s.release t).1 (ts.set place (s.release t).2) := by
  have hmem : ∀ u ∈ ts.set place (s.release t).2, ∃ v ∈ ts, u.window = v.window := by
    intro u hu
    rcases List.mem_or_eq_of_mem_set hu with hu | rfl
    · exact ⟨u, hu, rfl⟩
    · exact ⟨t, List.mem_of_getElem? ht, State.release_window s t⟩
  -- a ticket that is out is one of those counted, any other leaves the count as it is
  have hcount : (s.release t).1.inFlight =
      .whole (outstanding s.transitions (ts.set place (s.release t).2)) := by
    cases ho : t.isOut s.transitions with
    | true =>
      obtain ⟨n, hn, hset⟩ := h.inFlight_pos ht ho
      rw [State.release_of_isOut ho, hset]
      show s.inFlight.previous = _
      rw [hn, Number.previous_whole_succ]
    | false =>
      have hset := outstanding_set ht s.transitions (s.release t).2
      rw [ho, (State.release_isSpent s t).isOut_eq_false] at hset
      have hsame : outstanding s.transitions ts =
          outstanding s.transitions (ts.set place (s.release t).2) := by simpa using hset.symm
      rw [State.release_of_not_isOut ho, h.counted, hsame]
  refine ⟨?_, ?_, ?_⟩
  · rw [State.release_transitions]
    exact hcount
  · intro u hu window hw
    obtain ⟨v, hv, he⟩ := hmem u hu
    rw [State.release_transitions]
    exact h.begun v hv window (he ▸ hw)
  · intro u hu hw
    obtain ⟨v, hv, he⟩ := hmem u hu
    rw [State.release_transitions] at hw
    rw [State.release_phase]
    exact h.probing v hv (he ▸ hw)

theorem recordSuccess (h : Accounted s ts) (k : Config) (now : τ) :
    Accounted (s.recordSuccess k now).1 ts := by
  unfold State.recordSuccess
  split_ifs
  · exact h
  · split
    · exact h.move now _
    · exact h.with_failures 0
    · exact h

theorem recordFailure (h : Accounted s ts) (k : Config) (now : τ) :
    Accounted (s.recordFailure k now).1 ts := by
  unfold State.recordFailure
  split_ifs
  · exact h
  · split
    · exact h.move now _
    · dsimp only
      split_ifs
      · exact (h.with_failures _).move now _
      · exact h.with_failures _
    · exact h

theorem probe (h : Accounted s ts) (now : τ) : Accounted (s.probe now).1 ts := by
  unfold State.probe
  split_ifs
  · exact h.move now _
  · exact h

theorem turn [Clock τ] {now : τ} {c c' : Cell τ} {ts ts' : List Ticket} {u : Use τ}
    (h : Accounted c.state ts) (ht : Session.Turn now c ts u c' ts') : Accounted c'.state ts' := by
  cases ht with
  | check => exact h
  | unguarded _ => exact h.add_slotless
  | refused _ _ => exact h
  | unannounced _ _ => exact h.probe now
  | admitted _ _ => exact (h.probe now).take
  | unknown _ _ => exact h
  | released place t hp => exact h.release hp
  | succeed => exact h.recordSuccess _ _
  | fail => exact h.recordFailure _ _
  | reset => exact (h.move now _).with_failures 0
  | rekeyed _ _ => exact h
  | configured _ _ => exact h
  | pass _ => exact h

end Accounted

/-- What is still true of a breaker and its tickets at any later moment. -/
structure Later (c : Cell τ) (ts : List Ticket) (c' : Cell τ) (ts' : List Ticket) : Prop where
  transitions_le : c.state.transitions ≤ c'.state.transitions
  ticket : ∀ (place : Nat) (t : Ticket), ts[place]? = some t →
    ∃ t', ts'[place]? = some t' ∧ t'.window = t.window ∧ (t.IsSpent → t'.IsSpent)

namespace Later

variable {c c' c'' : Cell τ} {ts ts' ts'' : List Ticket}

theorem trans (h : Later c ts c' ts') (h' : Later c' ts' c'' ts'') : Later c ts c'' ts'' where
  transitions_le := h.transitions_le.trans h'.transitions_le
  ticket place t ht := by
    obtain ⟨t', ht', hw, hs⟩ := h.ticket place t ht
    obtain ⟨t'', ht'', hw', hs'⟩ := h'.ticket place t' ht'
    exact ⟨t'', ht'', hw'.trans hw, hs' ∘ hs⟩

theorem of_append (h : c.state.transitions ≤ c'.state.transitions) (more : List Ticket) :
    Later c ts c' (ts ++ more) where
  transitions_le := h
  ticket place t ht := by
    have hlt : place < ts.length := (List.getElem?_eq_some_iff.1 ht).1
    exact ⟨t, by rw [List.getElem?_append_left hlt, ht], rfl, id⟩

theorem of_same_tickets (h : c.state.transitions ≤ c'.state.transitions) : Later c ts c' ts where
  transitions_le := h
  ticket _ t ht := ⟨t, ht, rfl, id⟩

theorem turn [Clock τ] {now : τ} {u : Use τ} (ht : Session.Turn now c ts u c' ts') :
    Later c ts c' ts' := by
  cases ht with
  | check => exact of_same_tickets le_rfl
  | unguarded _ => exact of_append le_rfl _
  | refused _ _ => exact of_same_tickets le_rfl
  | unannounced _ _ => exact of_same_tickets (State.probe_settles _ now).transitions_le
  | admitted _ _ =>
    refine of_append ?_ _
    show _ ≤ (c.state.probe now).1.take.1.transitions
    rw [State.take_transitions]
    exact (State.probe_settles _ now).transitions_le
  | unknown _ _ => exact of_same_tickets le_rfl
  | released place t hp =>
    refine ⟨(State.release_transitions c.state t).ge, fun i u hu => ?_⟩
    by_cases hi : i = place
    · subst hi
      obtain rfl : t = u := Option.some.inj (hp.symm.trans hu)
      have hlt : i < ts.length := (List.getElem?_eq_some_iff.1 hu).1
      refine ⟨_, List.getElem?_set_self hlt, State.release_window c.state t, fun _ => ?_⟩
      exact State.release_isSpent c.state t
    · exact ⟨u, by rw [List.getElem?_set_ne (Ne.symm hi), hu], rfl, id⟩
  | succeed => exact of_same_tickets (State.recordSuccess_settles _ _ _).transitions_le
  | fail => exact of_same_tickets (State.recordFailure_settles _ _ _).transitions_le
  | reset => exact of_same_tickets (State.reset_settles _ now).transitions_le
  | rekeyed _ _ => exact of_same_tickets le_rfl
  | configured _ _ => exact of_same_tickets le_rfl
  | pass _ => exact of_same_tickets le_rfl

end Later

namespace Session

variable [Clock τ] {σ : Type}

theorem run_accounted (w : World τ σ) (config : Config) (us : List (Use τ)) :
    ∃ c, ((start w config).run us).cell? = some c ∧
      Accounted c.state ((start w config).run us).tickets :=
  run_induction (P := fun c ts => Accounted c.state ts) (cell?_start w config) Accounted.fresh
    fun _ _ _ _ _ _ _ h ht => h.turn ht

/-- Once every ticket has been given back no slot is taken, however the uses were interleaved. -/
theorem run_of_spent (w : World τ σ) (config : Config) (us : List (Use τ))
    (hs : ∀ t ∈ ((start w config).run us).tickets, t.IsSpent) :
    ∃ c, ((start w config).run us).cell? = some c ∧ c.state.inFlight = 0 := by
  obtain ⟨c, hc, ha⟩ := run_accounted w config us
  refine ⟨c, hc, ?_⟩
  have hnone : outstanding c.state.transitions ((start w config).run us).tickets = 0 := by
    refine List.countP_eq_zero.2 fun t ht => ?_
    rw [(hs t ht).isOut_eq_false]
    exact Bool.false_ne_true
  rw [ha.counted, hnone]
  rfl

theorem run_later {h : Session τ σ} {c : Cell τ} (hc : h.cell? = some c) (us : List (Use τ)) :
    ∃ c', (h.run us).cell? = some c' ∧ Later c h.tickets c' (h.run us).tickets :=
  run_induction (P := fun c' ts' => Later c h.tickets c' ts') hc
    (Later.of_same_tickets le_rfl) fun _ _ _ _ _ _ _ hl ht => hl.trans (Later.turn ht)

theorem cell?_release_of_not_isOut {h : Session τ σ} {c : Cell τ} (hc : h.cell? = some c)
    {place : Nat} {t : Ticket} (ht : h.tickets[place]? = some t)
    (ho : t.isOut c.state.transitions = false) : (h.perform (.release place)).cell? = some c := by
  obtain ⟨c', hc', hturn⟩ := turn_release hc place
  generalize (h.perform (.release place)).tickets = ts' at hturn
  cases hturn with
  | unknown _ _ => exact hc'
  | released _ u hu =>
    obtain rfl : t = u := Option.some.inj (ht.symm.trans hu)
    rw [State.release_of_not_isOut ho] at hc'
    exact hc'

theorem cell?_release_of_isOut {h : Session τ σ} {c : Cell τ} (hc : h.cell? = some c)
    {place : Nat} {t : Ticket} (ht : h.tickets[place]? = some t)
    (ho : t.isOut c.state.transitions = true) :
    (h.perform (.release place)).cell? =
      some { c with state := { c.state with inFlight := c.state.inFlight.previous } } := by
  obtain ⟨c', hc', hturn⟩ := turn_release hc place
  generalize (h.perform (.release place)).tickets = ts' at hturn
  cases hturn with
  | unknown _ hn => rw [ht] at hn; cases hn
  | released _ u hu =>
    obtain rfl : t = u := Option.some.inj (ht.symm.trans hu)
    rw [State.release_of_isOut ho] at hc'
    exact hc'

/-- A slot is taken only while the limit in force leaves one. -/
theorem take_within {c : Cell τ} {now : τ} {n : Nat} {limit : Int}
    (hn : c.state.inFlight = .whole n) (hen : c.config.isEnabled = true)
    (hv : c.state.verdict c.config now = .ok .granted)
    (hl : c.config.probes.value = .inl limit)
    (hslot : (c.state.probe now).1.take.2.window ≠ none) :
    ∃ k : Nat, (c.state.probe now).1.take.1.inFlight = .whole k ∧ (k : Int) ≤ limit := by
  cases hp : c.state.phase with
  | closed =>
    have hprobe := State.probe_of_ne (s := c.state) now (by simp [hp])
    simp [hprobe, State.take, hp] at hslot
  | opened =>
    -- the window only begins with this slot
    refine ⟨1, by rw [State.probe_of_opened now hp]; rfl, ?_⟩
    have hb := c.config.probes_inRange
    rw [Number.isBelow_of_values hl (n := 1) rfl] at hb
    simpa using hb
  | halfOpen =>
    have hprobe := State.probe_of_ne (s := c.state) now (by simp [hp])
    have hfree := State.reaches_of_granted hen hp hv
    rw [hn, Number.reaches_of_values rfl hl] at hfree
    refine ⟨n + 1, ?_, ?_⟩
    · simp only [hprobe, State.take, hp, if_true, hn, Number.next_whole]
      rfl
    · simp only [decide_eq_false_iff_not] at hfree
      push_cast
      omega

/-- The limit is a whole number that the probes do not pass. -/
structure Within (limit : Int) (c : Cell τ) : Prop where
  limit_eq : c.config.probes.value = .inl limit
  inFlight : ∃ n : Nat, c.state.inFlight = .whole n ∧ (n : Int) ≤ limit

omit [Clock τ] in
theorem Within.limit_pos {limit : Int} {c : Cell τ} (h : Within limit c) : 1 ≤ limit := by
  have hb := c.config.probes_inRange
  rw [Number.isBelow_of_values h.limit_eq (n := 1) rfl] at hb
  simpa using hb

omit [Clock τ] in
theorem Within.settles {limit : Int} {c : Cell τ} (h : Within limit c) {s : State τ}
    (hs : c.state.Settles s) : Within limit { c with state := s } := by
  refine ⟨h.limit_eq, ?_⟩
  rcases hs.inFlight with hs | hs
  · obtain ⟨n, hn, hle⟩ := h.inFlight
    exact ⟨n, hs.trans hn, hle⟩
  · have := h.limit_pos
    exact ⟨0, hs, by omega⟩

theorem Within.turn {limit : Int} {now : τ} {c c' : Cell τ} {ts ts' : List Ticket} {u : Use τ}
    (h : Within limit c) (ha : Accounted c.state ts)
    (hu : ∀ k, u = .configure k → k.probes.value = .inl limit)
    (ht : Turn now c ts u c' ts') : Within limit c' := by
  cases ht with
  | check => exact h
  | unguarded _ => exact h
  | refused _ _ => exact h
  | unannounced _ _ => exact h.settles (State.probe_settles _ now)
  | admitted hen hv =>
    -- a ticket without a slot leaves the probes as they were
    by_cases hslot : (c.state.probe now).1.take.2.window = none
    · refine h.settles ?_
      have hsame : (c.state.probe now).1.take.1 = (c.state.probe now).1 := by
        unfold State.take at hslot ⊢
        split_ifs at hslot ⊢
        rfl
      rw [hsame]
      exact State.probe_settles _ now
    · exact ⟨h.limit_eq, take_within ha.counted hen hv h.limit_eq hslot⟩
  | unknown _ _ => exact h
  | released place t hp =>
    cases ho : t.isOut c.state.transitions with
    | true =>
      obtain ⟨n, hn, hle⟩ := h.inFlight
      obtain ⟨m, hm, -⟩ := ha.inFlight_pos hp ho
      have hnm : (n : Int) = m + 1 := by simpa using hn.symm.trans hm
      refine ⟨h.limit_eq, m, ?_, by omega⟩
      rw [State.release_of_isOut ho]
      show c.state.inFlight.previous = _
      rw [hm, Number.previous_whole_succ]
    | false =>
      rw [State.release_of_not_isOut ho]
      exact h
  | succeed => exact h.settles (State.recordSuccess_settles _ _ _)
  | fail => exact h.settles (State.recordFailure_settles _ _ _)
  | reset => exact h.settles (State.reset_settles _ now)
  | rekeyed _ _ => exact h
  | configured k _ => exact ⟨hu k rfl, h.inFlight⟩
  | pass _ => exact h

theorem run_within {limit : Int} (w : World τ σ) (config : Config)
    (hl : config.probes.value = .inl limit) (us : List (Use τ))
    (hus : ∀ k, Use.configure k ∈ us → k.probes.value = .inl limit) :
    ∃ c, ((start w config).run us).cell? = some c ∧ Within limit c := by
  have hstart : Within limit (⟨config.key, config, .fresh⟩ : Cell τ) := by
    have hb := config.probes_inRange
    rw [Number.isBelow_of_values hl (n := 1) rfl] at hb
    simp only [decide_eq_false_iff_not] at hb
    exact ⟨hl, 0, rfl, by omega⟩
  obtain ⟨c, hc, -, h⟩ := run_induction
    (P := fun c ts => Accounted c.state ts ∧ Within limit c) (cell?_start w config)
    ⟨Accounted.fresh, hstart⟩ fun u (hu : u ∈ us) _ _ _ _ _ h ht =>
      ⟨h.1.turn ht, h.2.turn h.1 (fun k hk => hus k (hk ▸ hu)) ht⟩
  exact ⟨c, hc, h⟩

/-- A ticket that can be out no more frees nothing at any later moment of a session. -/
theorem cell?_release_later {h : Session τ σ} {c₀ c : Cell τ} (hc₀ : h.cell? = some c₀)
    {ws : List (Use τ)} (hc : (h.run ws).cell? = some c) {place : Nat} {t : Ticket}
    (ht : h.tickets[place]? = some t)
    (hout : ∀ t' : Ticket, t'.window = t.window → (t.IsSpent → t'.IsSpent) →
      c₀.state.transitions ≤ c.state.transitions → t'.isOut c.state.transitions = false) :
    ((h.run ws).perform (.release place)).cell? = some c := by
  obtain ⟨c', hc', hl⟩ := run_later hc₀ ws
  obtain rfl : c = c' := Option.some.inj (hc.symm.trans hc')
  obtain ⟨t', ht', hw, hs⟩ := hl.ticket place t ht
  exact cell?_release_of_not_isOut hc ht' (hout t' hw hs hl.transitions_le)

theorem cell?_release_again {h : Session τ σ} {c₀ c : Cell τ} (hc₀ : h.cell? = some c₀)
    {place : Nat} (hlt : place < h.tickets.length) {ws : List (Use τ)}
    (hc : (h.run (.release place :: ws)).cell? = some c) :
    ((h.run (.release place :: ws)).perform (.release place)).cell? = some c := by
  have ht := List.getElem?_eq_getElem hlt
  obtain ⟨c₁, hc₁, -⟩ := turn_release hc₀ place
  have hset : (h.perform (.release place)).tickets[place]? =
      some (c₀.state.release h.tickets[place]).2 := by
    simp only [perform, ht]
    rw [release_eq hc₀]
    exact List.getElem?_set_self hlt
  have hrest : ((h.perform (.release place)).run ws).cell? = some c := hc
  refine cell?_release_later hc₁ hrest hset ?_
  intro t' _ hs _
  exact (hs (State.release_isSpent _ _)).isOut_eq_false _

/-- What was given out before a breaker was not half open is of a window that is over. -/
theorem cell?_release_stale {h : Session τ σ} {c₀ c : Cell τ} (hc₀ : h.cell? = some c₀)
    (ha : Accounted c₀.state h.tickets) (hphase : c₀.state.phase ≠ .halfOpen) {place : Nat}
    (hlt : place < h.tickets.length) {ws : List (Use τ)} (hc : (h.run ws).cell? = some c) :
    ((h.run ws).perform (.release place)).cell? = some c := by
  have ht := List.getElem?_eq_getElem hlt
  refine cell?_release_later hc₀ hc ht ?_
  intro t' hw _ hle
  cases ho : t'.isOut c.state.transitions with
  | false => rfl
  | true =>
    -- the window of a ticket that is out would be the current one, and that of a probe
    have hwin := hw.symm.trans (Ticket.isOut_eq_true_iff.1 ho).1
    have hmem := List.mem_of_getElem? ht
    have hbegun := ha.begun _ hmem _ hwin
    have heq : c.state.transitions = c₀.state.transitions := by omega
    exact absurd (ha.probing _ hmem (heq ▸ hwin)) hphase

theorem enter_within {h : Session τ σ} {c : Cell τ} (hc : h.cell? = some c)
    (ha : Accounted c.state h.tickets) {t : Ticket} {w' : World τ σ} {limit : Int}
    (henter : Breaker.enter h.id h.world = (.ok t, w')) (hslot : t.window ≠ none)
    (hl : c.config.probes.value = .inl limit) :
    ∃ c' n, w'.registry.cell? h.id = some c' ∧ c'.state.inFlight = .whole n ∧ 0 ≤ n ∧
      n ≤ limit := by
  have he : Entry h.id h.world c (Breaker.enter h.id h.world) := entry hc
  rw [henter] at he
  cases he with
  | unguarded _ => exact absurd rfl hslot
  | admitted _ hen hv ho =>
    obtain ⟨n, hn, hle⟩ := take_within ha.counted hen hv hl hslot
    refine ⟨{ c with state := (c.state.probe h.world.now).1.take.1 }, n, ?_, hn, by omega, hle⟩
    rw [ho.registry]
    exact Registry.cell?_setState_self hc _

/-- The slots of a breaker are accounted for in every session that begins with it new. The probes
counted are the tickets of the current window that are still out, so that giving one back takes one
away from a number above zero. A ticket that was given back before, or that was given out before a
moment at which the breaker was not half open, frees nothing. A slot is taken within the limit in
force, if that is a whole number, and such a limit is never passed while it stays what it is. -/
theorem slots_accounted (w : World τ σ) (config : Config) (us : List (Use τ)) :
    let h := (start w config).run us
    ∃ c, h.cell? = some c ∧
      c.state.inFlight = .whole (outstanding c.state.transitions h.tickets) ∧
      (∀ place t, h.tickets[place]? = some t → t.isOut c.state.transitions = true →
        ∃ n : Nat, c.state.inFlight = .whole (n + 1) ∧
          (h.perform (.release place)).cell? =
            some { c with state := { c.state with inFlight := .whole n } }) ∧
      (∀ place t, h.tickets[place]? = some t → t.isOut c.state.transitions = false →
        (h.perform (.release place)).cell? = some c) ∧
      (∀ vs ws place, us = vs ++ .release place :: ws →
        place < ((start w config).run vs).tickets.length →
        (h.perform (.release place)).cell? = some c) ∧
      (∀ vs ws c₀ place, us = vs ++ ws → ((start w config).run vs).cell? = some c₀ →
        c₀.state.phase ≠ .halfOpen → place < ((start w config).run vs).tickets.length →
        (h.perform (.release place)).cell? = some c) ∧
      (∀ t w' limit, Breaker.enter h.id h.world = (.ok t, w') → t.window ≠ none →
        c.config.probes.value = .inl limit →
        ∃ c' n, w'.registry.cell? h.id = some c' ∧ c'.state.inFlight = .whole n ∧ 0 ≤ n ∧
          n ≤ limit) ∧
      (∀ limit, config.probes.value = .inl limit →
        (∀ k, Use.configure k ∈ us → k.probes.value = .inl limit) →
        outstanding c.state.transitions h.tickets ≤ limit) := by
  intro h
  obtain ⟨c, hc, ha⟩ := run_accounted w config us
  refine ⟨c, hc, ha.counted, ?_, ?_, ?_, ?_, ?_, ?_⟩
  · intro place t ht ho
    obtain ⟨n, hn, -⟩ := ha.inFlight_pos ht ho
    refine ⟨n, hn, ?_⟩
    rw [cell?_release_of_isOut hc ht ho, hn, Number.previous_whole_succ]
  · intro place t ht ho
    exact cell?_release_of_not_isOut hc ht ho
  · intro vs ws place hus hlt
    obtain ⟨c₀, hc₀, -⟩ := run_accounted w config vs
    have hrun : (start w config).run us = ((start w config).run vs).run (.release place :: ws) := by
      rw [hus, run_append]
    show (((start w config).run us).perform (.release place)).cell? = some c
    rw [hrun] at hc ⊢
    exact cell?_release_again hc₀ hlt hc
  · intro vs ws c₀ place hus hc₀ hphase hlt
    obtain ⟨c₁, hc₁, ha₀⟩ := run_accounted w config vs
    obtain rfl : c₀ = c₁ := Option.some.inj (hc₀.symm.trans hc₁)
    have hrun : (start w config).run us = ((start w config).run vs).run ws := by
      rw [hus, run_append]
    show (((start w config).run us).perform (.release place)).cell? = some c
    rw [hrun] at hc ⊢
    exact cell?_release_stale hc₀ ha₀ hphase hlt hc
  · intro t w' limit henter hslot hl
    exact enter_within hc ha henter hslot hl
  · intro limit hl hus
    obtain ⟨c', hc', hwithin⟩ := run_within w config hl us hus
    obtain rfl : c = c' := Option.some.inj (hc.symm.trans hc')
    obtain ⟨n, hn, hle⟩ := hwithin.inFlight
    have hcount := ha.counted.symm.trans hn
    simp only [Number.whole.injEq] at hcount
    exact hcount ▸ hle

end Session

end Breaker

end ResilientCalls
