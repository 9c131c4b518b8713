import ResilientCalls.Proofs.Service.History

namespace ResilientCalls

open Effect World

variable {τ σ α β : Type}

namespace Journal

/-- What an attempt adds to a history after it began. -/
def Entry.IsMeantime : Entry τ σ → Prop
  | aside .. => True
  | passed (.replied ..) => True
  | _ => False

/-- One attempt began, and every wait returned. -/
structure BegunOnce (ps : List (Passage τ σ)) : Prop where
  begun : ps.countP (·.isBegan) = 1
  calm : ∀ p ∈ ps, p.isRaised = false

/-- The failures of attempts are counted, from the `made`-th attempt on: one for each attempt that
began but the last, and one for the last too if the wait after it, which is the last passage, did
not return. -/
inductive Retold (retry : Failure → Nat → Count) (made : Nat) :
    List Count → List (Passage τ σ) → Prop where
  | mk (fs : List Failure) (before : List (Passage τ σ)) (last : Passage τ σ)
      (hcalm : ∀ p ∈ before, p.isRaised = false)
      (hlength : fs.length + 1 =
        (before ++ [last]).countP (·.isBegan) + if last.isRaised then 1 else 0) :
    Retold retry made ((fs.zipIdx made).map fun q => retry q.1 q.2) (before ++ [last])

section Retold

variable {retry : Failure → Nat → Count} {made : Nat} {cs : List Count} {ps qs : List (Passage τ σ)}

theorem Passage.isBegan_of_isRaised {p : Passage τ σ} (h : p.isRaised = true) :
    p.isBegan = false := by
  cases p with
  | began => cases h
  | _ => rfl

theorem BegunOnce.append (h : BegunOnce ps)
    (hqs : ∀ q ∈ qs, q.isBegan = false ∧ q.isRaised = false) : BegunOnce (ps ++ qs) where
  begun := by
    have hnone : qs.countP (·.isBegan) = 0 := by
      rw [List.countP_eq_zero]
      intro q hq
      simp [(hqs q hq).1]
    rw [List.countP_append, h.begun, hnone]
  calm p hp := by
    rcases List.mem_append.1 hp with hp | hp
    · exact h.calm p hp
    · exact (hqs p hp).2

theorem BegunOnce.retold (h : BegunOnce ps) : Retold retry made [] ps := by
  rcases List.eq_nil_or_concat ps with rfl | ⟨before, last, rfl⟩
  · cases h.begun
  · rw [List.concat_eq_append] at h ⊢
    have hlast : last.isRaised = false := h.calm last (by simp)
    refine .mk [] before last (fun p hp => h.calm p (by simp [hp])) ?_
    rw [h.begun, hlast]
    rfl

/-- The failure of an attempt is told even if the wait after it does not return. -/
theorem Retold.of_raised (h : BegunOnce ps) {p : Passage τ σ} (hp : p.isRaised = true)
    (f : Failure) : Retold retry made [retry f made] (ps ++ [p]) := by
  refine .mk [f] ps p h.calm ?_
  rw [List.countP_append, h.begun, hp]
  simp [Passage.isBegan_of_isRaised hp]

theorem Retold.cons (hr : Retold retry (made + 1) cs qs) (h : BegunOnce ps) (f : Failure) :
    Retold retry made (retry f made :: cs) (ps ++ qs) := by
  cases hr with
  | mk fs before last hcalm hlength =>
    have hmore : (f :: fs).length + 1 = (ps ++ before ++ [last]).countP (·.isBegan) +
        if last.isRaised then 1 else 0 := by
      rw [List.append_assoc, List.countP_append, h.begun, List.length_cons, hlength]
      omega
    have hall : ∀ p ∈ ps ++ before, p.isRaised = false := by
      intro p hp
      rcases List.mem_append.1 hp with hp | hp
      · exact h.calm p hp
      · exact hcalm p hp
    rw [← List.append_assoc]
    exact .mk (f :: fs) (ps ++ before) last hall hmore

/-- If every wait returned, there is one retry less than there are attempts. -/
theorem Retold.exists_of_calm (h : Retold retry made cs ps) (hps : ∀ p ∈ ps, p.isRaised = false) :
    ∃ fs : List Failure, cs = (fs.zipIdx made).map (fun q => retry q.1 q.2) ∧
      fs.length + 1 = ps.countP (·.isBegan) := by
  cases h with
  | mk fs before last hcalm hlength =>
    have hlast : last.isRaised = false := hps last (by simp)
    rw [hlast] at hlength
    exact ⟨fs, rfl, hlength⟩

end Retold

/-- What is counted of attempts depends on whether the guard lets any be made. -/
inductive Retried (retry : Failure → Nat → Count) :
    Except Stop Unit → List Count → List (Passage τ σ) → Prop where
  | refused (e : Stop) : Retried retry (.error e) [] []
  | begun (cs : List Count) (ps : List (Passage τ σ)) (h : Retold retry 1 cs ps) :
    Retried retry (.ok ()) cs ps

variable {s : Option Sink} {retry : Failure → Nat → Count}

theorem noted_of_asides {es : List (Entry τ σ)} (h : ∀ e ∈ es, e.IsAside) :
    counts es = [] ∧ passages es = [] := by
  have hnone : ∀ e ∈ es, e.count? = none ∧ e.passage? = none := by
    intro e he
    have haside := h e he
    cases e with
    | aside x h => exact ⟨rfl, rfl⟩
    | _ => cases haside
  exact ⟨List.filterMap_eq_nil_iff.2 fun e he => (hnone e he).1,
    List.filterMap_eq_nil_iff.2 fun e he => (hnone e he).2⟩

theorem noted_of_meantime {es : List (Entry τ σ)} (h : ∀ e ∈ es, e.IsMeantime) :
    counts es = [] ∧ ∀ p ∈ passages es, p.isBegan = false ∧ p.isRaised = false := by
  have hnone : ∀ e ∈ es, e.count? = none ∧
      ∀ p ∈ e.passage?, p.isBegan = false ∧ p.isRaised = false := by
    intro e he
    have hmeantime := h e he
    cases e with
    | counted c => cases hmeantime
    | aside x h => exact ⟨rfl, by simp [Entry.passage?]⟩
    | passed q =>
      cases q with
      | replied before after =>
        refine ⟨rfl, fun p hp => ?_⟩
        obtain rfl := Option.some.inj hp
        exact ⟨rfl, rfl⟩
      | _ => cases hmeantime
  refine ⟨List.filterMap_eq_nil_iff.2 fun e he => (hnone e he).1, fun p hp => ?_⟩
  obtain ⟨e, he, hep⟩ := List.mem_filterMap.1 hp
  exact (hnone e he).2 p hep

theorem meantime_of_hushed {x : Run τ (List (Passage τ σ) × σ) α} (hx : Moves (Hushed s) x) :
    Moves (Through s Entry.IsMeantime) x := by
  refine fun w => (hx w).mono fun es hes e he => ?_
  have haside := hes e he
  cases e with
  | aside x h => trivial
  | _ => cases haside

theorem records_ofExcept (s : Option Sink) (r : Except Failure α) :
    Records s (Effect.ofExcept r : Run τ (List (Passage τ σ) × σ) α) fun _ es => es = [] := by
  cases r with
  | ok a => exact Records.conclude (.ok a) rfl
  | error f => exact Records.conclude (.error (.failed f)) rfl

theorem records_began (s : Option Sink) :
    Records s (note .began : Run τ (List (Passage τ σ) × σ) Unit) fun r es =>
      r = .ok () ∧ es = [.passed .began] := fun _ hw =>
  ⟨⟨hw.delivers, hw.hasSinks⟩, fun _ => id, fun _ _ => ⟨[.passed .began], rfl, by
    simp [Entry.shown, Passage.shown]
    rfl, rfl, rfl⟩⟩

/-- What a retried action depends on: to ask whether to try again adds nothing, to tell of a retry
counts it, and a wait is one passage. -/
structure Heard (s : Option Sink) (retry : Failure → Nat → Count)
    (h : Retry.Hooks (Noted (Passage τ σ) τ σ)) : Prop where
  asks : ∀ f, Records s (h.shouldRetry f) fun _ es => es = []
  tells : ∀ f made, Records s (h.onRetry f made) fun r es =>
    r = .ok () ∧ es = [.counted (retry f made)]
  waits : ∀ d, Records s (h.wait d) fun r es =>
    ∃ before after, es = [.passed (.waited before after (.of r))]
  logs : ∀ l : LogRecord, l.event ∈ Retry.events →
    Records s (h.log l) fun r es => r = .ok () ∧ es = []

/-- What a pause adds to a history. -/
inductive Paused (c : Count) : Except Stop Unit → List (Entry τ σ) → Prop where
  | untimed (e : Stop) : Paused c (.error e) []
  | untaken : Paused c (.ok ()) [.counted c]
  | taken (before after : World τ σ) (r : Except Stop Unit) :
    Paused c r [.counted c, .passed (.waited before after (.of r))]

theorem Paused.returned {c : Count} {u : Unit} {es : List (Entry τ σ)} (h : Paused c (.ok u) es) :
    counts es = [c] ∧ ∀ p ∈ passages es, p.isBegan = false ∧ p.isRaised = false := by
  generalize hr : (Except.ok u : Except Stop Unit) = r at h
  cases h with
  | untimed e => cases hr
  | untaken => exact ⟨rfl, by simp [passages, Entry.passage?]⟩
  | taken before after r =>
    subst hr
    refine ⟨rfl, fun p hp => ?_⟩
    obtain rfl : .waited before after .returned = p := by
      simpa [passages, Entry.passage?, Ending.of] using hp
    exact ⟨rfl, rfl⟩

theorem Paused.raised {f : Failure} {made : Nat} {e : Stop} {gs : List (Entry τ σ)}
    (h : Paused (retry f made) (.error e) gs) {ps : List (Passage τ σ)} (hps : BegunOnce ps) :
    Retold retry made ([] ++ counts gs) (ps ++ passages gs) := by
  generalize hr : (Except.error e : Except Stop Unit) = r at h
  cases h with
  | untimed e =>
    rw [show passages ([] : List (Entry τ σ)) = [] from rfl, List.append_nil]
    exact hps.retold
  | untaken => cases hr
  | taken before after r =>
    subst hr
    have hraised : (Passage.waited before after (.of (.error e : Except Stop Unit))).isRaised =
        true := by cases e <;> rfl
    exact .of_raised hps hraised f

theorem records_pause {h : Retry.Hooks (Noted (Passage τ σ) τ σ)} (hh : Heard s retry h)
    (p : Retry.Policy) (f : Failure) (made : Nat) :
    Records s (Retry.pause p h f made) (Paused (retry f made)) := by
  unfold Retry.pause
  cases hd : p.delayMs made with
  | error e => exact Records.conclude (.error (.failed e)) (.untimed _)
  | ok d =>
    rw [ofExcept_ok, pure_bind]
    refine Records.bind (hh.tells f made) (fun u es hes => ?_) fun e es hes => ?_
    · rw [hes.2]
      have hlogged := hh.logs (Retry.retrying f made d)
        (by simp [Retry.events, Retry.retrying, Retry.describe])
      refine Records.silent_bind hlogged ?_
      split
      · refine (hh.waits _).mono fun r es hes => ?_
        obtain ⟨before, after, rfl⟩ := hes
        exact .taken before after r
      · exact Records.conclude (.ok ()) .untaken
    · cases hes.1

/-- The attempts that are left are told of from the next one on. -/
theorem records_attemptFrom {h : Retry.Hooks (Noted (Passage τ σ) τ σ)} (hh : Heard s retry h)
    (p : Retry.Policy) {action : Run τ (List (Passage τ σ) × σ) α}
    (ha : Records s action fun _ es => counts es = [] ∧ BegunOnce (passages es))
    (made left : Nat) :
    Records s (Retry.attemptFrom p h action made left) fun _ es =>
      Retold retry made (counts es) (passages es) := by
  have hgive : ∀ {es : List (Entry τ σ)} {made}, counts es = [] ∧ BegunOnce (passages es) →
      ∀ r, Records s (Effect.conclude r : Run τ (List (Passage τ σ) × σ) α) fun _ fs =>
        Retold retry made (counts (es ++ fs)) (passages (es ++ fs)) := by
    intro es made hes r
    refine Records.conclude r ?_
    rw [List.append_nil, hes.1]
    exact hes.2.retold
  have hfail : ∀ {es : List (Entry τ σ)} {made}, counts es = [] ∧ BegunOnce (passages es) →
      ∀ (f : Failure) (l : LogRecord), l.event ∈ Retry.events →
      Records s (h.log l >>= fun _ => Effect.fail f : Run τ (List (Passage τ σ) × σ) α) fun _ fs =>
        Retold retry made (counts (es ++ fs)) (passages (es ++ fs)) :=
    fun hes f l hl => Records.silent_bind (hh.logs l hl) (hgive hes (.error (.failed f)))
  -- on the attempts that are left: the retry after this one comes before those after them
  induction left generalizing made with
  | zero =>
    refine Records.ending_bind ha fun r es hes => ?_
    rcases r with (f | _) | a
    · exact hfail hes f _ (by simp [Retry.events, Retry.exhausted, Retry.describe])
    · exact hgive hes (.error .cancelled)
    · exact hgive hes (.ok a)
  | succ left ih =>
    refine Records.ending_bind ha fun r es hes => ?_
    rcases r with (f | _) | a
    · refine Records.bind (hh.asks f) (fun again fs hfs => ?_) fun e fs hfs => ?_
      · rw [hfs]
        split
        · refine Records.bind (records_pause hh p f made) (fun u gs hgs => ?_) fun e gs hgs => ?_
          · obtain ⟨hcounts, hgains⟩ := hgs.returned
            refine (ih (made + 1)).mono fun r ks hks => ?_
            rw [List.nil_append, ← List.append_assoc, counts_append, passages_append,
              counts_append, passages_append, hes.1, hcounts]
            exact hks.cons (hes.2.append hgains) f
          · rw [List.nil_append, counts_append, passages_append, hes.1]
            exact hgs.raised hes.2
        · exact hfail hes f _ (by simp [Retry.events, Retry.declined, Retry.describe])
      · rw [hfs, List.append_nil, hes.1]
        exact hes.2.retold
    · exact hgive hes (.error .cancelled)
    · exact hgive hes (.ok a)

/-- A service's attempts are told of as they are retried. -/
theorem heard_hooks {wait : Binary64 → Run τ (List (Passage τ σ) × σ) Unit}
    (hwait : ∀ d, Records s (wait d) fun r es =>
      ∃ before after, es = [.passed (.waited before after (.of r))])
    {onRetry : Failure → Nat → Run τ (List (Passage τ σ) × σ) Unit}
    (htell : ∀ f made, Records s (onRetry f made) fun r es =>
      r = .ok () ∧ es = [.counted (retry f made)])
    (shouldRetry : Failure → Except Failure Bool) :
    Heard s retry ⟨fun f => Effect.ofExcept (shouldRetry f), onRetry, wait, Run.logged⟩ where
  asks f := records_ofExcept s (shouldRetry f)
  tells := htell
  waits := hwait
  logs l hl := by
    refine records_logged s ?_
    rintro h
    rw [h] at hl
    simp [Retry.events] at hl

section Attempts

variable [Clock τ]

/-- Whatever becomes of an attempt, it began once, and nothing is counted for it by the call. -/
theorem records_attempt (v : Service) {body : Run τ (List (Passage τ σ) × σ) α}
    (hb : Moves (Through v.sink Entry.IsMeantime) body) :
    Records v.sink (v.attempt (History.guard v.guard) body) fun _ es =>
      counts es = [] ∧ BegunOnce (passages es) := by
  have hattempt : Moves (Through v.sink Entry.IsMeantime) (v.attempt v.guard body) := by
    refine Moves.bind (meantime_of_hushed (hushed_enter _ _)) fun t => Moves.thereafter ?_ ?_
    · refine Breaker.moves_reporting ?_ (meantime_of_hushed (hushed_advance _ _ _))
        (meantime_of_hushed (hushed_advance _ _ _))
      exact Moves.bind (meantime_of_hushed (hushed_inject _ _ _)) fun _ => hb
    · exact Moves.bind (meantime_of_hushed (hushed_release _ _ _)) fun _ => Moves.pure _
  have hbegun : Records v.sink (note .began >>= fun _ => v.attempt v.guard body) fun _ es =>
      counts es = [] ∧ BegunOnce (passages es) := by
    refine Records.bind (records_began v.sink) (fun _ es hes => ?_) fun e es hes => ?_
    · rw [hes.2]
      refine Records.mono (Q := fun _ fs => ∀ e ∈ fs, e.IsMeantime) hattempt fun r fs hfs => ?_
      obtain ⟨hcounts, hpassages⟩ := noted_of_meantime hfs
      rw [counts_append, passages_append, hcounts]
      have hone : BegunOnce (passages [Entry.passed (Passage.began : Passage τ σ)]) :=
        ⟨rfl, by simp [passages, Entry.passage?, Passage.isRaised]⟩
      exact ⟨rfl, hone.append hpassages⟩
    · cases hes.1
  exact hbegun

/-- What is counted of a service's attempts, after its guard was asked whether to make any. -/
theorem recorded_attempts (v : Service) {body : Run τ (List (Passage τ σ) × σ) α}
    (hb : Moves (Through v.sink Entry.IsMeantime) body)
    {wait : Binary64 → Run τ (List (Passage τ σ) × σ) Unit}
    (hwait : ∀ d, Records v.sink (wait d) fun r es =>
      ∃ before after, es = [.passed (.waited before after (.of r))])
    {onRetry : Failure → Nat → Run τ (List (Passage τ σ) × σ) Unit}
    (htell : ∀ f made, Records v.sink (onRetry f made) fun r es =>
      r = .ok () ∧ es = [.counted (retry f made)])
    (shouldRetry : Failure → Except Failure Bool) (w : Noted (Passage τ σ) τ σ) :
    Recorded v.sink (fun es => Retried retry (v.guard.check w).1 (counts es) (passages es)) w
      (v.attempts (History.guard v.guard) wait shouldRetry onRetry body w).2 := by
  have hcheck := hushed_check v.sink v.breaker w
  unfold Service.attempts
  cases h : v.guard.check w with
  | mk r w₁ =>
    have hfirst : Hushed v.sink w w₁ := by
      have heq : Breaker.check v.breaker w = (r, w₁) := h
      rw [heq] at hcheck
      exact hcheck
    cases r with
    | error e =>
      rw [bind_of_error (show (History.guard v.guard).check w = _ from h)]
      refine hfirst.mono fun es hes => ?_
      rw [(noted_of_asides hes).1, (noted_of_asides hes).2]
      exact .refused e
    | ok u =>
      rw [bind_of_ok (show (History.guard v.guard).check w = _ from h)]
      refine hfirst.trans fun es hes => ?_
      refine (records_attemptFrom (heard_hooks hwait htell shouldRetry) v.policy
        (records_attempt v hb) 1 _ w₁).mono fun fs hfs => ?_
      rw [counts_append, passages_append, (noted_of_asides hes).1, (noted_of_asides hes).2]
      exact .begun _ _ hfs

/-- What is counted after the attempts comes after their retries. -/
theorem recorded_after_attempts (v : Service) {body : Run τ (List (Passage τ σ) × σ) α}
    (hb : Moves (Through v.sink Entry.IsMeantime) body)
    {wait : Binary64 → Run τ (List (Passage τ σ) × σ) Unit}
    (hwait : ∀ d, Records v.sink (wait d) fun r es =>
      ∃ before after, es = [.passed (.waited before after (.of r))])
    {onRetry : Failure → Nat → Run τ (List (Passage τ σ) × σ) Unit}
    (htell : ∀ f made, Records v.sink (onRetry f made) fun r es =>
      r = .ok () ∧ es = [.counted (retry f made)])
    (shouldRetry : Failure → Except Failure Bool) {w : World τ σ} {a : Except Stop α}
    {w₁ w₂ : Noted (Passage τ σ) τ σ}
    (h : v.attempts (History.guard v.guard) wait shouldRetry onRetry body (withJournal [] w) =
      (a, w₁)) {P : List Count → Prop}
    (hrest : Recorded v.sink (fun es => P (counts es) ∧ passages es = []) w₁ w₂) :
    Recorded v.sink (fun es => ∃ retries outcome, counts es = retries ++ outcome ∧
      Retried retry (v.guard.check w).1 retries (passages es) ∧ P outcome)
      (withJournal [] w) w₂ := by
  have hcheck : (v.guard.check (withJournal ([] : List (Passage τ σ)) w)).1 =
      (v.guard.check w).1 :=
    congrArg Prod.fst
      (journal_of_mirrors (Breaker.mirrors_guard Prod.snd v.breaker).check (w := w) rfl)
  have hretried := recorded_attempts v hb hwait htell shouldRetry (withJournal [] w)
  rw [h, hcheck] at hretried
  refine hretried.trans fun es hes => hrest.mono fun fs hfs => ?_
  refine ⟨counts es, counts fs, counts_append es fs, ?_, hfs.1⟩
  rw [passages_append, hfs.2, List.append_nil]
  exact hes

end Attempts

end Journal

end ResilientCalls
