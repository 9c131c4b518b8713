import ResilientCalls.Proofs.Service.Budget
import ResilientCalls.Proofs.Service.Fallback
import ResilientCalls.Proofs.Service.Journal

namespace ResilientCalls

open Effect World Breaker

variable {τ σ α : Type}

/-- The event of the records that tell of a retry. -/
def Summary.retryEvent : String := "Retrying summarize"

def Localization.retryEvent : String := "Retrying translation batch"

namespace Service

section

variable {event : String}

theorem retryMetric_ne_blocked (s : Service) : s.retryMetric ≠ blockedMetric := by
  unfold retryMetric
  cases s.task with
  | summarizing => decide
  | translating => decide

theorem watched_not_incidental (s : Service) (he : .record event ∉ Seen.incidental) :
    ∀ x ∈ s.watched event, x ∉ Seen.incidental := by
  intro x hx
  have hcases : x = .metric s.retryMetric ∨ x = .record event ∨ x = .metric blockedMetric := by
    simpa [watched] using hx
  rcases hcases with rfl | rfl | rfl
  · unfold retryMetric
    cases s.task with
    | summarizing => decide
    | translating => decide
  · exact he
  · decide

/-- Of what is watched, a record of the event shows the record alone. -/
theorem shows_add_retry (s : Service) (he : .record event ∉ Seen.incidental) {r : LogRecord}
    (hr : r.event = event) {x : Seen} (hx : x ∈ s.watched event) :
    (if r.shows x then 1 else 0) + (if x = .metric s.retryMetric then 1 else 0) =
      if x = .metric blockedMetric then 0 else 1 := by
  have hm : r.event ≠ "metric" := by
    rintro h
    rw [← hr, h] at he
    simp [Seen.incidental] at he
  have hcases : x = .metric s.retryMetric ∨ x = .record event ∨ x = .metric blockedMetric := by
    simpa [watched] using hx
  rcases hcases with rfl | rfl | rfl
  · simp [LogRecord.shows, hm, s.retryMetric_ne_blocked]
  · simp [LogRecord.shows, hr]
  · simp [LogRecord.shows, hm, s.retryMetric_ne_blocked.symm]

theorem telling (s : Service) (provider : String) (level : Level)
    (he : .record event ∉ Seen.incidental) (fields labels : Failure → Nat → List (String × Json)) :
    s.Telling event fun f made => (do
      s.logged provider level event (fields f made)
      s.count s.retryMetric (labels f made) : Run τ σ Unit) where
  observed f made := Moves.bind (moves_logged _) fun _ => Sink.moves_count _ _ _
  returns f made := Returns.bind (returns_logged _) fun _ => Sink.returns_count _ _ _
  gains f made x hx := by
    intro w
    -- the record shows the event, the count its metric, and neither of them a refusal
    generalize hr : (⟨level, event,
      [("service", .text s.task.name), ("provider", .text provider)] ++ fields f made⟩ :
        LogRecord) = r
    have hevent : r.event = event := by rw [← hr]
    have hlog := gains_addLog s.sink x r w
    have hcount := Sink.gains_count (τ := τ) (σ := σ) (k := s.sink)
      (s.watched_not_incidental he x hx) (Or.inr rfl) s.retryMetric (labels f made) (w.addLog r)
    have htold : ((s.logged provider level event (fields f made) >>= fun _ =>
        s.count s.retryMetric (labels f made)) w).2 =
          (Sink.count s.sink s.retryMetric (labels f made) (w.addLog r)).2 := by
      rw [← hr]
      rfl
    have hsum : (if r.shows x then 1 else 0) + (if x = .metric s.retryMetric then 1 else 0) =
        if x = .metric blockedMetric then 0 else 1 :=
      shows_add_retry s he hevent hx
    rw [htold, ← hsum]
    exact hlog.trans hcount

end

section

variable [Clock τ] {s : Service} {event : String} {wait : Binary64 → Run τ σ Unit}
  {shouldRetry : Failure → Except Failure Bool}
  {onRetry : Failure → Nat → Run τ (List (Journal.Moment τ σ) × σ) Unit}
  {body : Run τ (List (Journal.Moment τ σ) × σ) α} {threshold : Int}

theorem attempts_spent (he : .record event ∉ Seen.incidental) {c : Cell τ}
    {all : List (Journal.Moment τ σ)} (hv : s.InVain event shouldRetry c.state all)
    (hb : Journal.Calling body) (htell : s.Telling event onRetry)
    (hdecline : ∀ key phase ms, shouldRetry (.circuitOpen key phase ms) = .ok false)
    (hen : c.config.isEnabled = true) (ht : c.config.threshold.value = .inl threshold)
    {w : World τ σ} {n : Nat} (hw : s.Stands w c)
    (hall : ∀ r w', s.attempts (Journal.Moments.guard s.guard) (Journal.Moments.waiting wait)
      shouldRetry onRetry body (Journal.withJournal [] w) = (r, w') → w'.outside.1 = all)
    (hn : Allowance c.config threshold c.state w.now n) :
    ∃ fs f w' c', s.attempts (Journal.Moments.guard s.guard) (Journal.Moments.waiting wait)
        shouldRetry onRetry body (Journal.withJournal [] w) = (.error (.failed f), w') ∧
      w'.registry.cell? s.breaker = some c' ∧ c'.config = c.config ∧
      Journal.replies w'.outside.1 = fs.map .failed ∧
      Spent s event c.config.key s.policy.limit n (Journal.withJournal [] w) w' c.state c'.state
        fs f := by
  have hx := s.watched_not_incidental he
  have hw₀ : s.Stands (Journal.withJournal ([] : List (Journal.Moment τ σ)) w) c :=
    hw.withJournal []
  have hlimit : s.policy.limit = s.policy.limit - 1 + 1 := by
    have := s.policy.limit_pos
    omega
  cases n with
  | zero =>
    -- the check before the attempts refuses already, and none is made
    obtain ⟨ms, hv⟩ := hn.refused
    obtain ⟨w', hcheck, hsaid⟩ := check_refused hw₀.cell hv hw₀.delivers
    have ho := moves_check s.breaker (Journal.withJournal ([] : List (Journal.Moment τ σ)) w)
    rw [hcheck] at ho
    have hg : ∀ x ∈ s.watched event, Gains s.sink x (if x = .metric blockedMetric then 1 else 0)
        (Journal.withJournal [] w) w' := by
      intro x hxs
      have hgain := gains_announce_blocked (hx x hxs) c c.state.phase ms (k := s.sink)
        (Journal.withJournal ([] : List (Journal.Moment τ σ)) w)
      rw [hsaid] at hgain
      exact hgain
    refine ⟨[], _, w', c, bind_of_error hcheck _, (hw₀.observed ho).cell, rfl, ?_, ?_⟩
    · rw [ho.outside]
      rfl
    · rw [hlimit]
      exact (Spent.refused hg).of_refused _
  | succ n =>
    have hpass : (Journal.Moments.guard s.guard).check (Journal.withJournal [] w) =
        (.ok (), Journal.withJournal [] w) := check_granted hw₀.cell (hn.granted hen)
    have hgoes := bind_of_ok hpass fun _ => Retry.run s.policy ⟨fun f =>
      Effect.ofExcept (shouldRetry f), onRetry, Journal.Moments.waiting wait, Run.logged⟩
      (s.attempt (Journal.Moments.guard s.guard) body)
    have hnoted := (List.append_nil _).trans (hall _ _ hgoes)
    obtain ⟨fs, f, w', c', hres, hw', hk', hr, hs⟩ := attemptFrom_spent hx hv hb htell hdecline hen
      ht rfl (by omega : 1 + (s.policy.limit - 1) ≤ _) hw₀ rfl le_rfl rfl ⟨[], hnoted⟩ fun _ => hn
    rw [← hlimit] at hs
    exact ⟨fs, f, w', c', hgoes.trans hres, hw'.cell, hk', hr, hs⟩

end

section

variable {s : Service} {event : String} {x : Seen}

theorem shows_eq_false (hx : x ∈ s.watched event) {r : LogRecord} (hr : r.event ≠ event)
    (hm : r.event ≠ "metric") : r.shows x = false := by
  have hcases : x = .metric s.retryMetric ∨ x = .record event ∨ x = .metric blockedMetric := by
    simpa [watched] using hx
  rcases hcases with rfl | rfl | rfl
  · simp [LogRecord.shows, hm]
  · simp [LogRecord.shows, hr]
  · simp [LogRecord.shows, hm]

theorem gains_outcome (he : .record event ∉ Seen.incidental) (hx : x ∈ s.watched event)
    (labels : List (String × Json)) :
    Moves (Gains s.sink x 0) (s.count s.outcomeMetric labels : Run τ σ Unit) := by
  have hcount := Sink.gains_count (τ := τ) (σ := σ) (k := s.sink)
    (s.watched_not_incidental he x hx) (Or.inr rfl) s.outcomeMetric labels
  have hne : x ≠ .metric s.outcomeMetric := by
    have hcases : x = .metric s.retryMetric ∨ x = .record event ∨ x = .metric blockedMetric := by
      simpa [watched] using hx
    rcases hcases with rfl | rfl | rfl
    · unfold retryMetric outcomeMetric
      cases s.task with
      | summarizing => decide
      | translating => decide
    · simp
    · unfold outcomeMetric
      cases s.task with
      | summarizing => decide
      | translating => decide
  rw [if_neg hne] at hcount
  exact hcount

theorem gains_checkpoint (hx : x ∈ s.watched event) (hne : "Injecting fault" ≠ event)
    (stage : String) : Moves (Gains s.sink x 0) (s.checkpoint stage : Run τ σ Unit) := by
  refine gains_inject ?_ _ _
  have hcases : x = .metric s.retryMetric ∨ x = .record event ∨ x = .metric blockedMetric := by
    simpa [watched] using hx
  rcases hcases with rfl | rfl | rfl
  · simp
  · simpa using hne.symm
  · simp

end

end Service

theorem Summary.gains_fallback {s : Service} {x : Seen} (hx : x ∈ s.watched Summary.retryEvent)
    (provider : String) (settings : Summary.Settings) (text : String) (inputTokens : Nat)
    (f : Failure) : Moves (Gains s.sink x 0)
      (Summary.fallback s provider settings text inputTokens f : Run τ σ _) := by
  refine Moves.bind (gains_logged_of_hidden ?_) fun _ => ?_
  · exact Service.shows_eq_false hx (by simp [Summary.retryEvent]) (by simp)
  · refine Moves.bind (Service.gains_outcome (by decide) hx _) fun _ => ?_
    exact Moves.bind (Service.gains_checkpoint hx (by decide) _) fun _ => Moves.pure _

theorem Localization.gains_failed {s : Service} {x : Seen}
    (hx : x ∈ s.watched Localization.retryEvent) (provider : String) (b : Localization.Batch)
    (f : Failure) : Moves (Gains s.sink x 0) (Localization.failed s provider b f : Run τ σ _) := by
  refine Moves.bind (Service.gains_outcome (by decide) hx _) fun _ => ?_
  refine Moves.bind (gains_logged_of_hidden ?_) fun _ => Moves.fail _
  exact Service.shows_eq_false hx (by simp [Localization.retryEvent]) (by simp)

namespace Journal

variable {ε : Type} {s : Service} {event : String}

theorem spent_without {key : Json} {m n : Nat} {w w' : Noted ε τ σ} {b b' : State τ}
    {fs : List Failure} {f : Failure} (h : Service.Spent s event key m n w w' b b' fs f) :
    Service.Spent s event key m n (without w) (without w') b b' fs f where
  calls := h.calls
  last := h.last
  refusal := h.refusal
  gains x hx := gains_without.2 (h.gains x hx)
  untouched := h.untouched
  tripped := h.tripped
  counted := h.counted

end Journal

theorem Summary.moves_resume (s : Service) (provider : String) (r : Request)
    (x : Except Stop CodePoints) : Moves Observed (resume s provider r x : Run τ σ Result) := by
  rcases x with (f | _) | summary
  · exact moves_fallback s provider _ _ _ f
  · exact Moves.stop _
  · exact moves_succeeded s provider _ _ _ summary

section

variable {s : Service} (g : Breaker.Guard (World τ σ)) (p : Provider τ σ)
  (wait : Binary64 → Run τ σ Unit) {w : World τ σ}

theorem Summary.observed_after_attempts {text : String} {settings : Json} {r : Request}
    (hr : Request.of text settings = .ok r) (hquiet : s.isFaulty w "before-run" = false)
    (x : Except Stop CodePoints) (w' : World τ σ)
    (h : s.attempts g wait Failure.isTransient (onRetry s p.name r.used)
      (ask p r.system r.text.val) w = (x, w')) :
    Observed w' (summarizeUnder s g p wait text settings w).2 := by
  rw [summarizeUnder_apply hr hquiet rfl]
  have hmodel : Observed w' (modelSummary s g p wait r.used r.system r.text.val w).2 := by
    rw [show w' = _ from (congrArg Prod.snd h).symm]
    exact Moves.after_bind (fun _ => Moves.bind (moves_inject _ _) fun _ => Moves.pure _) w
  exact trans_of Observed hmodel (moves_resume s p.name r _ _)

theorem Localization.observed_after_attempts {b : Batch} (hb : b.entries ≠ [])
    (hlimits : b.checkLimits = .ok ()) (hquiet : s.isFaulty w "before-run" = false)
    (x : Except Stop (List Result)) (w' : World τ σ)
    (h : s.attempts g wait (fun f => .ok f.isRetriable) (onRetry s p.name b) (p.translate b) w =
      (x, w')) :
    Observed w' (translateBatchUnder s g p wait b w).2 := by
  rw [translateBatchUnder_eq hb hlimits hquiet h]
  exact moves_resume s p.name b _ _

end

variable [Clock τ]

section

variable {s : Service} {p : Provider τ σ} {wait : Binary64 → Run τ σ Unit} {c : Cell τ}
  {threshold : Int} {n : Nat} {w : World τ σ}

omit [Clock τ] in
theorem Summary.telling (s : Service) (provider : String) (settings : Summary.Settings) :
    s.Telling retryEvent (onRetry s provider settings : Failure → Nat → Run τ σ Unit) :=
  Service.telling s provider .warning (by decide) _ _

omit [Clock τ] in
theorem Localization.telling (s : Service) (provider : String) (b : Localization.Batch) :
    s.Telling retryEvent (onRetry s provider b : Failure → Nat → Run τ σ Unit) :=
  Service.telling s provider .warning (by decide) _ _

/-- A valid text that is summarized in vain spends the budget. -/
theorem Summary.summarize_spent (hen : c.config.isEnabled = true)
    (ht : c.config.threshold.value = .inl threshold) (hw : s.Stands w c)
    (hn : Allowance c.config threshold c.state w.now n) {text : String} {settings : Json}
    {r : Request} (hr : Request.of text settings = .ok r) :
    ∃ ms, (∀ m ∈ ms, m.Genuine p wait) ∧
      summarizeUnder s (Journal.Moments.guard s.guard) (Journal.Moments.provider p)
          (Journal.Moments.waiting wait) text settings (Journal.withJournal [] w) =
        ((summarize s p wait text settings w).1,
          Journal.withJournal ms (summarize s p wait text settings w).2) ∧
      (s.InVain retryEvent Failure.isTransient c.state ms → ∃ fs f w' c',
        Journal.replies ms = fs.map .failed ∧
        modelSummary s s.guard p wait r.used r.system r.text.val w = (.error (.failed f), w') ∧
        summarize s p wait text settings w =
          fallback s p.name r.used r.text.val r.inputTokens f w' ∧
        (summarize s p wait text settings w).2.registry.cell? s.breaker = some c' ∧
        c'.config = c.config ∧
        Service.Spent s retryEvent c.config.key s.policy.limit n w
          (summarize s p wait text settings w).2 c.state c'.state fs f) := by
  have hguard : (Journal.Moments.guard s.guard).Follow
      (World.mapOutside (Prod.snd : List (Journal.Moment τ σ) × σ → σ)) s.guard :=
    Journal.Moments.follow_guard (Breaker.mirrors_guard _ s.breaker)
  have hmirror := Journal.Moments.mirror_provider p
  have hwaits := Journal.Moments.mirrors_waiting wait
  obtain ⟨ms, hgenuine, hjournal⟩ := Journal.exists_genuine
    (mirrors_summarizeUnder hguard hmirror hwaits s text settings)
    (Journal.truthful_summarizeUnder text settings) w
  -- what has been noted when the attempts have ended is all that is noted
  have hnoted : ∀ x w', s.attempts (Journal.Moments.guard s.guard) (Journal.Moments.waiting wait)
      Failure.isTransient (onRetry s p.name r.used)
      (ask (Journal.Moments.provider p) r.system r.text.val) (Journal.withJournal [] w) = (x, w') →
      w'.outside.1 = ms := by
    intro x w' h
    have ho := observed_after_attempts (Journal.Moments.guard s.guard) (Journal.Moments.provider p)
      (Journal.Moments.waiting wait) hr ((hw.withJournal []).quiet _) x w' h
    rw [hjournal] at ho
    exact (congrArg Prod.fst ho.outside).symm
  refine ⟨ms, hgenuine, hjournal, fun hv => ?_⟩
  obtain ⟨fs, f, w', c', hres, hc', hk', hreplies, hs⟩ := Service.attempts_spent (by decide) hv
    (Journal.calling_ask p r.system r.text.val) (telling s p.name r.used) (fun _ _ _ => rfl) hen ht
    hw hnoted hn
  have hplain : s.attempts s.guard wait Failure.isTransient (onRetry s p.name r.used)
      (ask p r.system r.text.val) w = (.error (.failed f), Journal.without w') :=
    Journal.run_of_mirrors (mirrors_attempts hguard hmirror hwaits s p.name r.used _ _) hres
  have hmodel : modelSummary s s.guard p wait r.used r.system r.text.val w =
      (.error (.failed f), Journal.without w') := bind_of_error hplain _
  have hcall : summarize s p wait text settings w =
      fallback s p.name r.used r.text.val r.inputTokens f (Journal.without w') :=
    summarizeUnder_apply hr (hw.quiet _) hmodel
  refine ⟨fs, f, Journal.without w', c', ?_, hmodel, hcall, ?_, hk', ?_⟩
  · rw [← hnoted _ _ hres]
    exact hreplies
  · rw [hcall, (moves_fallback s _ _ _ _ f _).registry]
    exact hc'
  · rw [hcall]
    exact (Journal.spent_without hs).observed fun x hx => gains_fallback hx _ _ _ _ f _

/-- A batch that keeps the limits and is translated in vain spends the budget. -/
theorem Localization.translateBatch_spent (hen : c.config.isEnabled = true)
    (ht : c.config.threshold.value = .inl threshold) (hw : s.Stands w c)
    (hn : Allowance c.config threshold c.state w.now n) {b : Batch} (hb : b.entries ≠ [])
    (hlimits : b.checkLimits = .ok ()) :
    ∃ ms, (∀ m ∈ ms, m.Genuine p wait) ∧
      translateBatchUnder s (Journal.Moments.guard s.guard) (Journal.Moments.provider p)
          (Journal.Moments.waiting wait) b (Journal.withJournal [] w) =
        ((translateBatch s p wait b w).1, Journal.withJournal ms (translateBatch s p wait b w).2) ∧
      (s.InVain retryEvent (fun f => .ok f.isRetriable) c.state ms → ∃ fs f w' c',
        Journal.replies ms = fs.map .failed ∧
        s.attempts s.guard wait (fun f => .ok f.isRetriable) (onRetry s p.name b) (p.translate b)
          w = (.error (.failed f), w') ∧
        translateBatch s p wait b w = failed s p.name b f w' ∧
        (translateBatch s p wait b w).2.registry.cell? s.breaker = some c' ∧
        c'.config = c.config ∧
        Service.Spent s retryEvent c.config.key s.policy.limit n w
          (translateBatch s p wait b w).2 c.state c'.state fs f) := by
  have hguard : (Journal.Moments.guard s.guard).Follow
      (World.mapOutside (Prod.snd : List (Journal.Moment τ σ) × σ → σ)) s.guard :=
    Journal.Moments.follow_guard (Breaker.mirrors_guard _ s.breaker)
  have hmirror := Journal.Moments.mirror_provider p
  have hwaits := Journal.Moments.mirrors_waiting wait
  obtain ⟨ms, hgenuine, hjournal⟩ := Journal.exists_genuine
    (mirrors_translateBatchUnder hguard hmirror hwaits s b)
    (Journal.truthful_translateBatchUnder b) w
  have hnoted : ∀ x w', s.attempts (Journal.Moments.guard s.guard) (Journal.Moments.waiting wait)
      (fun f => .ok f.isRetriable) (onRetry s p.name b) ((Journal.Moments.provider p).translate b)
      (Journal.withJournal [] w) = (x, w') → w'.outside.1 = ms := by
    intro x w' h
    have ho := observed_after_attempts (Journal.Moments.guard s.guard) (Journal.Moments.provider p)
      (Journal.Moments.waiting wait) hb hlimits ((hw.withJournal []).quiet _) x w' h
    rw [hjournal] at ho
    exact (congrArg Prod.fst ho.outside).symm
  refine ⟨ms, hgenuine, hjournal, fun hv => ?_⟩
  obtain ⟨fs, f, w', c', hres, hc', hk', hreplies, hs⟩ := Service.attempts_spent (by decide) hv
    (Journal.Calling.around (p.translate b)) (telling s p.name b) (fun _ _ _ => rfl) hen ht hw
    hnoted hn
  have hplain : s.attempts s.guard wait (fun f => .ok f.isRetriable) (onRetry s p.name b)
      (p.translate b) w = (.error (.failed f), Journal.without w') :=
    Journal.run_of_mirrors (mirrors_attempts hguard hmirror hwaits s p.name b) hres
  have hcall : translateBatch s p wait b w = failed s p.name b f (Journal.without w') :=
    translateBatchUnder_eq hb hlimits (hw.quiet _) hplain
  refine ⟨fs, f, Journal.without w', c', ?_, hplain, hcall, ?_, hk', ?_⟩
  · rw [← hnoted _ _ hres]
    exact hreplies
  · rw [hcall, (moves_failed s _ b f _).registry]
    exact hc'
  · rw [hcall]
    exact (Journal.spent_without hs).observed fun x hx => gains_failed hx _ b f _

/-- A call that is made in vain spends the budget of its policy and of its breaker, whichever is
less. What happens in a call is noted in a journal, with which it does what it does without one. If
every call of the provider that is found there has failed, every wait has returned, and no window
that opened in the call was over when the breaker was asked, then the provider was called as often
as there were attempts and failing calls allowed, each pause told of one retry, and the failure that
ended the attempts was the provider's last one, unless the breaker gave out first: then it was a
refusal, which is shown once and not counted as a failure. -/
theorem Service.budget_spent (s : Service) (p : Provider τ σ) (wait : Binary64 → Run τ σ Unit)
    (hw : s.Stands w c) (hen : c.config.isEnabled = true)
    (ht : c.config.threshold.value = .inl threshold)
    (hreach : ∃ (start : World τ σ) (config : Config) (us : List (Use τ)),
      ((Session.start start config).run us).cell? = some c)
    {verdict : Verdict} (hv : c.state.verdict c.config w.now = .ok verdict) :
    ∃ n, Allowance c.config threshold c.state w.now n ∧
      (∀ text settings r, Summary.Request.of text settings = .ok r →
        ∃ ms, (∀ m ∈ ms, m.Genuine p wait) ∧
        Summary.summarizeUnder s (Journal.Moments.guard s.guard) (Journal.Moments.provider p)
            (Journal.Moments.waiting wait) text settings (Journal.withJournal [] w) =
          ((Summary.summarize s p wait text settings w).1,
            Journal.withJournal ms (Summary.summarize s p wait text settings w).2) ∧
        (s.InVain Summary.retryEvent Failure.isTransient c.state ms → ∃ fs f w' c',
          Journal.replies ms = fs.map .failed ∧
          Summary.modelSummary s s.guard p wait r.used r.system r.text.val w =
            (.error (.failed f), w') ∧
          Summary.summarize s p wait text settings w =
            Summary.fallback s p.name r.used r.text.val r.inputTokens f w' ∧
          (Summary.summarize s p wait text settings w).2.registry.cell? s.breaker = some c' ∧
          c'.config = c.config ∧
          Spent s Summary.retryEvent c.config.key s.policy.limit n w
            (Summary.summarize s p wait text settings w).2 c.state c'.state fs f)) ∧
      (∀ b, b.entries ≠ [] → b.checkLimits = .ok () →
        ∃ ms, (∀ m ∈ ms, m.Genuine p wait) ∧
        Localization.translateBatchUnder s (Journal.Moments.guard s.guard)
            (Journal.Moments.provider p) (Journal.Moments.waiting wait) b
            (Journal.withJournal [] w) =
          ((Localization.translateBatch s p wait b w).1,
            Journal.withJournal ms (Localization.translateBatch s p wait b w).2) ∧
        (s.InVain Localization.retryEvent (fun f => .ok f.isRetriable) c.state ms → ∃ fs f w' c',
          Journal.replies ms = fs.map .failed ∧
          s.attempts s.guard wait (fun f => .ok f.isRetriable) (Localization.onRetry s p.name b)
            (p.translate b) w = (.error (.failed f), w') ∧
          Localization.translateBatch s p wait b w = Localization.failed s p.name b f w' ∧
          (Localization.translateBatch s p wait b w).2.registry.cell? s.breaker = some c' ∧
          c'.config = c.config ∧
          Spent s Localization.retryEvent c.config.key s.policy.limit n w
            (Localization.translateBatch s p wait b w).2 c.state c'.state fs f)) ∧
      ∀ b, b.entries = [] → Localization.translateBatch s p wait b w = (.ok [], w) := by
  obtain ⟨start, config, us, hus⟩ := hreach
  -- where a session has led, failures are counted in whole numbers
  obtain ⟨c₁, hc₁, hcount⟩ := Session.run_counts start config us
  obtain rfl : c = c₁ := Option.some.inj (hus.symm.trans hc₁)
  obtain ⟨n, hn⟩ := Allowance.exists_of_verdict threshold hcount hv
  refine ⟨n, hn, ?_, ?_, ?_⟩
  · intro text settings r hr
    exact Summary.summarize_spent hen ht hw hn hr
  · intro b hb hlimits
    exact Localization.translateBatch_spent hen ht hw hn hb hlimits
  · intro b hb
    unfold Localization.translateBatch Localization.translateBatchUnder
    rw [hb]
    rfl

end

namespace Service.Unanswered

def config : Config :=
  ⟨.text "translation:model", .bool true, 1, 60000, 1, by decide, by decide, by decide, by decide⟩

def session : Session Number Unit := .start (.start 0 ()) config

/-- Two attempts are allowed by the policy, and one failing call by the breaker. -/
def service : Service := ⟨.translating, session.id, ⟨2, 500, 2, by decide⟩, ⟨[], false⟩, none⟩

def provider : Provider Number Unit := .silent "model"

def batch : Localization.Batch :=
  ⟨[⟨⟨"title", by decide⟩, "Titel", none⟩], ⟨"de", by decide⟩, ⟨"en", by decide⟩, none, .plain⟩

def wait (_ : Binary64) : Run Number Unit Unit := Pure.pure ()

/-- A breaker that allows three failing calls, and whose windows would be over at once. -/
def lasting : Config :=
  { config with threshold := 3, recoveryMs := 0, threshold_inRange := by decide,
                recoveryMs_inRange := by decide }

/-- How often the provider has been called is kept in the world outside. -/
def begun : Session Number Nat := .start (.start 0 0) lasting

/-- Only its first two calls fail. -/
def recovering : Provider Number Nat where
  name := "model"
  generate _ _ _ := Effect.fail (.timeout "model" "30000")
  translate _ := do
    let w ← Effect.get
    Effect.modify fun w => { w with outside := w.outside + 1 }
    if w.outside < 2 then Effect.fail (.timeout "model" "30000") else return []

/-- It is an hour until the next attempt. -/
def hour (_ : Binary64) : Run Number Nat Unit := Effect.modify fun w => { w with now := 3600 }

theorem delay_one : service.policy.delayMs 1 = .ok (500 * 1) := by
  have hfinite : (1 : Binary64).isInfinite = false := by decide
  have hpower : Retry.Policy.power 2 0 = .ok 1 := by
    simp [Retry.Policy.power, Binary64.power, hfinite]
  simp [Retry.Policy.delayMs, service, hpower, Except.map]

/-- Is a window that is found open not over yet? -/
def isPending (w : World Number σ) : Bool :=
  match w.registry.cell? service.breaker with
  | none => true
  | some c =>
    match c.state.phase, c.state.remainingMs c.config w.now with
    | .opened, .ok 0 | .opened, .error _ => false
    | _, _ => true

/-- Is the breaker asked while its window is not over, and the provider called in such a world? -/
def isInTime (called : σ → Bool) : Journal.Moment Number σ → Bool
  | .asked w => isPending w
  | .called w _ _ => called w.outside
  | .waited _ _ _ => true

theorem pending_of_isPending {w : World Number σ} {c : Cell Number} (h : isPending w = true)
    (hc : w.registry.cell? service.breaker = some c) (hp : c.state.phase = .opened) :
    ∃ left, c.state.remainingMs c.config w.now = .ok (left + 1) := by
  simp only [isPending, hc, hp] at h
  cases hms : c.state.remainingMs c.config w.now with
  | error f => simp [hms] at h
  | ok ms =>
    cases ms with
    | zero => simp [hms] at h
    | succ left => exact ⟨left, rfl⟩

/-- To change the time and the world outside spares the service. -/
theorem spares (event : String) (w : World Number σ) (now : Number) (outside : σ) :
    service.Spares event w { w with now, outside } where
  stands _ h := ⟨h.delivers, h.quiet, h.cell⟩
  uncounted x _ := refl_of (Gains service.sink x 0) w

/-- A translation that only fails, in such worlds, is made in vain if what is noted is in time. -/
theorem inVain {p : Provider Number σ} {rest : Binary64 → Run Number σ Unit} {called : σ → Bool}
    {event : String} {start : State Number} {ms : List (Journal.Moment Number σ)}
    (hgenuine : ∀ m ∈ ms, m.Genuine p rest) (hms : ms.all (isInTime called) = true)
    (hgenerate : ∀ system user json w, service.Spares event w (p.generate system user json w).2 ∧
      (p.generate system user json w).1 = .error (.failed (.timeout "model" "30000")))
    (htranslate : ∀ b w, called w.outside = true → service.Spares event w (p.translate b w).2 ∧
      (p.translate b w).1 = .error (.failed (.timeout "model" "30000")))
    (hrest : ∀ d w, service.Spares event w (rest d w).2 ∧ (rest d w).1 = .ok ()) :
    service.InVain event (fun f => .ok f.isRetriable) start ms where
  failed w w' e hm := by
    have hin := List.all_eq_true.1 hms _ hm
    cases hgenuine _ hm with
    | answered system user json w =>
      obtain ⟨hspares, hfail⟩ := hgenerate system user json w
      exact ⟨hspares, _, by rw [hfail]; rfl, rfl⟩
    | translated b w =>
      obtain ⟨hspares, hfail⟩ := htranslate b w hin
      exact ⟨hspares, _, by rw [hfail]; rfl, rfl⟩
  measured made hpos hlt _ := by
    have hmade : made = 1 := by
      have hlimit : service.policy.limit = 2 := rfl
      omega
    subst hmade
    exact ⟨_, delay_one⟩
  waited w w' e hm := by
    cases hgenuine _ hm with
    | waited d w =>
      obtain ⟨hspares, hret⟩ := hrest d w
      exact ⟨hspares, by rw [hret]; rfl⟩
  pending w c hm hc hp _ := pending_of_isPending (List.all_eq_true.1 hms _ hm) hc hp

theorem allowance_fresh {k : Config} {threshold : Int} {n : Nat}
    (h : Allowance k threshold (.fresh : State Number) 0 n)
    (hv : State.verdict .fresh k (0 : Number) = .ok .granted) :
    n = (max 1 threshold).toNat := by
  cases h with
  | refusing ms hr => rw [hv] at hr; cases hr
  | probing _ hp => exact absurd rfl hp
  | counting failures _ hf =>
    have hnone : (0 : Int) = failures := Number.whole.inj hf
    omega

/-- A breaker that allows three failing calls lets both attempts be made, and counts them; one that
allows a single one opens, and refuses the second attempt. -/
theorem budget_spent_unanswered :
    (∃ ms, ∃ fs : List Failure, ∃ f w' c',
      Localization.translateBatchUnder service (Journal.Moments.guard service.guard)
          (Journal.Moments.provider recovering) (Journal.Moments.waiting hour) batch
          (Journal.withJournal [] begun.world) =
        ((Localization.translateBatch service recovering hour batch begun.world).1,
          Journal.withJournal ms
            (Localization.translateBatch service recovering hour batch begun.world).2) ∧
      Journal.replies ms = fs.map .failed ∧
      Localization.translateBatch service recovering hour batch begun.world =
        Localization.failed service recovering.name batch f w' ∧
      (Localization.translateBatch service recovering hour batch
        begun.world).2.registry.cell? service.breaker = some c' ∧
      fs.length = 2 ∧ fs.getLast? = some f ∧
      c'.state.phase = .closed ∧ c'.state.failures = .whole 2) ∧
    ∃ ms, ∃ fs : List Failure, ∃ f w' c',
      Localization.translateBatchUnder service (Journal.Moments.guard service.guard)
          (Journal.Moments.provider provider) (Journal.Moments.waiting wait) batch
          (Journal.withJournal [] session.world) =
        ((Localization.translateBatch service provider wait batch session.world).1,
          Journal.withJournal ms
            (Localization.translateBatch service provider wait batch session.world).2) ∧
      Journal.replies ms = fs.map .failed ∧
      Localization.translateBatch service provider wait batch session.world =
        Localization.failed service provider.name batch f w' ∧
      (Localization.translateBatch service provider wait batch
        session.world).2.registry.cell? service.breaker = some c' ∧
      fs.length = 1 ∧ f.status = .int 503 ∧ c'.state.phase = .opened := by
  have hbatch : batch.entries ≠ [] := by simp [batch]
  constructor
  · have hc : begun.world.registry.cell? service.breaker = some ⟨lasting.key, lasting, .fresh⟩ :=
      Session.cell?_start _ lasting
    have hd : begun.world.Delivers := fun _ h => by cases h
    have hw : service.Stands begun.world ⟨lasting.key, lasting, .fresh⟩ := ⟨hd, fun _ => rfl, hc⟩
    have hv : State.verdict .fresh lasting begun.world.now = .ok .granted := rfl
    have ht : lasting.threshold.value = .inl 3 := rfl
    obtain ⟨n, hn, -, htranslated, -⟩ :=
      budget_spent service recovering hour hw rfl ht ⟨_, lasting, [], hc⟩ hv
    obtain rfl := allowance_fresh hn hv
    obtain ⟨ms, hgenuine, hjournal, hspent⟩ := htranslated batch hbatch rfl
    have hms : ms.all (isInTime (· < 2)) = true := by
      rw [← show _ = ms from congrArg (fun r => r.2.outside.1) hjournal]
      decide +kernel
    have hfails : ∀ b (w : World Number Nat), decide (w.outside < 2) = true →
        recovering.translate b w = (.error (.failed (.timeout "model" "30000")),
          { w with outside := w.outside + 1 }) := by
      intro b w hlt
      simp only [recovering, get_bind_apply, modify_bind_apply, of_decide_eq_true hlt, if_true]
      rfl
    obtain ⟨fs, f, w', c', hreplies, -, hcall, hc', -, hs⟩ := hspent (inVain hgenuine hms
      (fun _ _ _ w => ⟨spares _ w w.now w.outside, rfl⟩)
      (fun b w hlt => by rw [hfails b w hlt]; exact ⟨spares _ w w.now (w.outside + 1), rfl⟩)
      fun _ w => ⟨spares _ w 3600 w.outside, rfl⟩)
    obtain ⟨hp, m, hm, hm'⟩ := hs.counted (by decide)
    obtain rfl : m = 0 := Int.ofNat.inj (Number.whole.inj hm).symm
    exact ⟨ms, fs, f, w', c', hjournal, hreplies, hcall, hc', hs.calls, hs.last (by decide), hp,
      hm'⟩
  · have hc : session.world.registry.cell? service.breaker = some ⟨config.key, config, .fresh⟩ :=
      Session.cell?_start _ config
    have hd : session.world.Delivers := fun _ h => by cases h
    have hw : service.Stands session.world ⟨config.key, config, .fresh⟩ := ⟨hd, fun _ => rfl, hc⟩
    have hv : State.verdict .fresh config session.world.now = .ok .granted := rfl
    have ht : config.threshold.value = .inl 1 := rfl
    obtain ⟨n, hn, -, htranslated, -⟩ :=
      budget_spent service provider wait hw rfl ht ⟨_, config, [], hc⟩ hv
    obtain rfl := allowance_fresh hn hv
    obtain ⟨ms, hgenuine, hjournal, hspent⟩ := htranslated batch hbatch rfl
    have hms : ms.all (isInTime fun _ => true) = true := by
      rw [← show _ = ms from congrArg (fun r => r.2.outside.1) hjournal]
      decide +kernel
    obtain ⟨fs, f, w', c', hreplies, -, hcall, hc', -, hs⟩ := hspent (inVain hgenuine hms
      (fun _ _ _ w => ⟨spares _ w w.now w.outside, rfl⟩)
      (fun _ w _ => ⟨spares _ w w.now w.outside, rfl⟩)
      fun _ w => ⟨spares _ w w.now w.outside, rfl⟩)
    exact ⟨ms, fs, f, w', c', hjournal, hreplies, hcall, hc', hs.calls,
      (hs.refusal (by decide)).1, (hs.tripped (by decide) (by decide)).1⟩

end Service.Unanswered

end ResilientCalls
