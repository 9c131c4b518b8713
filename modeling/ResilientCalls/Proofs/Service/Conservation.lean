import ResilientCalls.Proofs.Breaker.Records
import ResilientCalls.Proofs.Provider.Exchange
import ResilientCalls.Proofs.Provider.Growth
import ResilientCalls.Proofs.Service.Retelling
import ResilientCalls.Proofs.Service.Spending

namespace ResilientCalls

open Effect World Journal

variable {τ σ α : Type}

namespace Journal

section

variable {s : Option Sink}

theorem Records.moves {E : Entry τ σ → Prop} {x : Run τ (List (Passage τ σ) × σ) α}
    (hx : Records s x fun _ es => ∀ e ∈ es, E e) : Moves (Through s E) x := hx

/-- What is counted before or after a record is written is one count all the same. -/
theorem records_count_logged (s : Option Sink) (c : Count) {l : LogRecord} (hl : l.event ≠ "metric")
    (r : Except Stop α) :
    Records s (Sink.count s c.name c.labels >>= fun _ => Run.logged l >>= fun _ =>
      Effect.conclude r : Run τ (List (Passage τ σ) × σ) α) fun q es =>
        q = r ∧ es = [.counted c] := by
  refine Records.bind (records_count s c.name c.labels) (fun u es hes => ?_) fun e es hes => ?_
  · rw [hes.2]
    exact Records.silent_bind (records_logged s hl) (Records.conclude r ⟨rfl, rfl⟩)
  · cases hes.1

theorem records_logged_count (s : Option Sink) (c : Count) {l : LogRecord}
    (hl : l.event ≠ "metric") :
    Records s (Run.logged l >>= fun _ => Sink.count s c.name c.labels :
      Run τ (List (Passage τ σ) × σ) Unit) fun r es => r = .ok () ∧ es = [.counted c] :=
  Records.silent_bind (records_logged s hl) (records_count s c.name c.labels)

theorem meantime_of_reply {x : Run τ σ α} (hx : Moves (Grows s) x) :
    Moves (Through s Entry.IsMeantime)
      (History.spanning (fun before after _ => .replied before after) x) := by
  have hspanning : Records s (History.spanning (fun before after _ => .replied before after) x)
      fun _ es => ∃ before after, es = [.passed (.replied before after)] :=
    History.records_spanning (fun _ _ _ _ => rfl) hx
  refine Records.moves (hspanning.mono fun r es hes e he => ?_)
  obtain ⟨before, after, rfl⟩ := hes
  obtain rfl := List.mem_singleton.1 he
  trivial

theorem History.records_waiting {wait : Binary64 → Run τ σ Unit}
    (hwait : ∀ d, Moves (Grows s) (wait d)) (d : Binary64) :
    Records s (History.waiting wait d) fun r es =>
      ∃ before after, es = [.passed (.waited before after (.of r))] :=
  History.records_spanning (fun _ _ _ _ => rfl) (hwait d)

end

/-- A call's history tells what whichever sink is used shows afterwards, and `P` holds of what the
call itself counted in it and of what else went on. -/
def Accounts (s : Option Sink) (noted : Run τ (List (Passage τ σ) × σ) α) (call : Run τ σ α)
    (w : World τ σ) (P : List Count → List (Passage τ σ) → Prop) : Prop :=
  ∃ ps, noted (withJournal [] w) = ((call w).1, withJournal ps (call w).2) ∧
    ∀ k, (call w).2.UsesOnly s k → ∃ es : List (Entry τ σ), passages es = ps ∧
      (call w).2.sightings .count k = w.sightings .count k ++ es.flatMap (Entry.shown k) ∧
      P (counts es) ps

theorem accounts_of_recorded {s : Option Sink} {noted : Run τ (List (Passage τ σ) × σ) α}
    {call : Run τ σ α} (hm : Mirrors Prod.snd noted call) {w : World τ σ} (hw : w.Fit s)
    {P : List Count → List (Passage τ σ) → Prop}
    (h : Recorded s (fun es => P (counts es) (passages es)) (withJournal [] w)
      (noted (withJournal [] w)).2) : Accounts s noted call w P := by
  have hnoted := journal_of_mirrors hm (w := w) rfl
  refine ⟨_, hnoted, fun k hk => ?_⟩
  rw [hnoted] at h
  obtain ⟨-, -, hes⟩ := h ⟨hw.delivers, hw.hasSinks⟩
  obtain ⟨es, hpassages, hshown, hp⟩ := hes k hk
  have hps : passages es = (noted (withJournal [] w)).2.outside.1 := hpassages.symm
  refine ⟨es, hps, hshown, ?_⟩
  rw [← hps]
  exact hp

end Journal

/-! ## Summaries -/

namespace Summary

/-- How a retry is counted. -/
def retryCount (s : Service) (settings : Settings) (f : Failure) (made : Nat) : Count :=
  ⟨s.retryMetric,
    [("attempt", .int made), ("status", Service.retryStatusLabel f.status)] ++ settings.labels⟩

/-- How an outcome is counted. -/
def outcomeCount (s : Service) (settings : Settings) (result : String) (status : Json) : Count :=
  ⟨s.outcomeMetric, [("result", .text result), ("status", status)] ++ settings.labels⟩

def successCount (s : Service) (r : Request) : Count :=
  outcomeCount s r.used "success" (.int 200)

def fallbackCount (s : Service) (r : Request) (f : Failure) : Count :=
  outcomeCount s r.used "fallback" (Service.statusLabel f.status)

/-- How a call ends whose attempts ended so, in the world that they left, and what is counted of
it: a success if the summary is the model's, and a fallback otherwise, also when a fault is injected
into the extract. -/
inductive Settled (s : Service) (r : Request) (w : World τ σ) :
    Except Stop CodePoints → Except Stop Result → List Count → Prop where
  | succeeded (summary : CodePoints) (h : s.isFaulty w "after-run" = false) :
    Settled s r w (.ok summary) (.ok (Result.of summary r.text.val r.inputTokens))
      [successCount s r]
  | faulted (summary : CodePoints) (h : s.isFaulty w "after-run" = true) :
    Settled s r w (.ok summary) (fallbackOutcome s r w) [fallbackCount s r (s.fault "after-run")]
  | failed (f : Failure) :
    Settled s r w (.error (.failed f)) (fallbackOutcome s r w) [fallbackCount s r f]
  | cancelled : Settled s r w (.error .cancelled) (.error .cancelled) []

/-- What is counted of a call, given what was noted of it: nothing unless its text is valid and no
fault is injected before the breaker is asked, and otherwise the retries of its attempts, and after
them what they come to. -/
inductive Reckoned [Clock τ] (s : Service) (p : Provider τ σ) (wait : Binary64 → Run τ σ Unit)
    (text : String) (settings : Json) (w : World τ σ) :
    List Count → List (Passage τ σ) → Prop where
  | invalid (issues : List Schema.Issue) (h : Request.of text settings = .error issues) :
    Reckoned s p wait text settings w [] []
  | faulty (r : Request) (hr : Request.of text settings = .ok r)
      (h : s.isFaulty w "before-run" = true) : Reckoned s p wait text settings w [] []
  | attempted (r : Request) (hr : Request.of text settings = .ok r)
      (h : s.isFaulty w "before-run" = false) (a : Except Stop CodePoints) (w' : World τ σ)
      (ha : s.attempts s.guard wait Failure.isTransient (onRetry s p.name r.used)
        (ask p r.system r.text.val) w = (a, w'))
      (retries outcome : List Count) (ps : List (Passage τ σ))
      (hretried : Retried (retryCount s r.used) (s.guard.check w).1 retries ps)
      (hsettled : Settled s r w' a (summarize s p wait text settings w).1 outcome) :
    Reckoned s p wait text settings w (retries ++ outcome) ps

section

variable {s : Service} {g : Breaker.Guard (World τ σ)} {p : Provider τ σ}
  {wait : Binary64 → Run τ σ Unit} {text : String} {settings : Json} {r : Request}
  {w w' : World τ σ}

/-- What follows the attempts. -/
def close (s : Service) (provider : String) (r : Request) (a : Except Stop CodePoints) :
    Run τ σ Result := do
  let summary ← Effect.ending (do
    let summary ← Effect.conclude a
    s.checkpoint "after-run"
    Effect.conclude (.ok summary))
  resume s provider r summary

theorem summarizeUnder_close (hr : Request.of text settings = .ok r)
    (hquiet : s.isFaulty w "before-run" = false) {a : Except Stop CodePoints}
    (h : s.attempts g wait Failure.isTransient (onRetry s p.name r.used)
      (ask p r.system r.text.val) w = (a, w')) :
    summarizeUnder s g p wait text settings w = close s p.name r a w' := by
  rw [summarizeUnder_apply hr hquiet (Prod.eta _).symm, close, ending_bind_apply, modelSummary]
  cases a with
  | ok summary =>
    rw [bind_of_ok h, bind_of_ok (conclude_apply (.ok summary) w')]
    rfl
  | error e => rw [bind_of_error h, bind_of_error (conclude_apply (.error e) w')]

theorem close_error (s : Service) (provider : String) (r : Request) (e : Stop) (w : World τ σ) :
    close s provider r (.error e) w = resume s provider r (.error e) w := by
  rw [close, ending_bind_apply, bind_of_error (conclude_apply (.error e) w)]

theorem close_ok (provider : String) (r : Request) (summary : CodePoints)
    {c : Except Stop Unit} (h : s.checkpoint "after-run" w = (c, w')) :
    close s provider r (.ok summary) w = resume s provider r (c.map fun _ => summary) w' := by
  rw [close, ending_bind_apply, bind_of_ok (conclude_apply (.ok summary) w)]
  cases c with
  | ok u =>
    rw [bind_of_ok h, conclude_apply]
    rfl
  | error e =>
    rw [bind_of_error h]
    rfl

end

section

variable {s : Service} {r : Request} {w : Noted (Passage τ σ) τ σ}

/-- What is noted makes no difference to what is counted. -/
theorem Settled.without {a : Except Stop CodePoints} {e : Except Stop Result} {cs : List Count}
    (h : Settled s r w a e cs) : Settled s r (Journal.without w) a e cs := by
  cases h with
  | succeeded summary h => exact .succeeded summary h
  | faulted summary h => exact .faulted summary h
  | failed f => exact .failed f
  | cancelled => exact .cancelled

theorem recorded_fallback (s : Service) (provider : String) (r : Request) (f : Failure)
    (w : Noted (Passage τ σ) τ σ) :
    Recorded s.sink (fun es =>
      (fallback s provider r.used r.text.val r.inputTokens f w).1 = fallbackOutcome s r w ∧
        es = [.counted (fallbackCount s r f)]) w
      (fallback s provider r.used r.text.val r.inputTokens f w).2 := by
  intro hw
  have hcounted : Records s.sink (fallback s provider r.used r.text.val r.inputTokens f :
      Run τ (List (Passage τ σ) × σ) Result) fun _ es => es = [.counted (fallbackCount s r f)] := by
    refine Records.silent_bind (records_logged s.sink (by simp)) ?_
    refine Records.bind (records_count s.sink _ _) (fun u es hes => ?_) fun e es hes => ?_
    · rw [hes.2]
      refine Records.bind (records_checkpoint s.sink s "fallback") (fun v fs hfs => ?_)
        fun e fs hfs => ?_
      · rw [hfs.1]
        exact Records.conclude (.ok _) rfl
      · rw [hfs.1]
        rfl
    · cases hes.1
  obtain ⟨w', hfallback, -⟩ := fallback_apply (s := s) (r := r) provider f hw.delivers
  refine ((hcounted w).mono fun es hes => ⟨?_, hes⟩) hw
  rw [hfallback]

theorem records_succeeded (s : Service) (provider : String) (r : Request) (summary : CodePoints) :
    Records s.sink (succeeded s provider r.used r.text.val r.inputTokens summary :
      Run τ (List (Passage τ σ) × σ) Result) fun q es =>
        q = .ok (Result.of summary r.text.val r.inputTokens) ∧
          es = [.counted (successCount s r)] :=
  records_count_logged s.sink (successCount s r) (by simp) (.ok _)

/-- Whatever the attempts ended in, no more than one outcome is counted after them. -/
theorem recorded_close (s : Service) (provider : String) (r : Request) (a : Except Stop CodePoints)
    (w : Noted (Passage τ σ) τ σ) :
    Recorded s.sink (fun es => Settled s r w a (close s provider r a w).1 (counts es) ∧
      passages es = []) w (close s provider r a w).2 := by
  rcases a with (f | _) | summary
  · rw [close_error]
    refine (recorded_fallback s provider r f w).mono fun es hes => ?_
    obtain ⟨hend, rfl⟩ := hes
    refine ⟨?_, rfl⟩
    rw [resume, hend]
    exact .failed f
  · rw [close_error]
    exact recorded_refl s.sink w ⟨.cancelled, rfl⟩
  · cases hfault : s.isFaulty w "after-run" with
    | true =>
      -- a fault after the attempts is caught, and counted as one of their failures would be
      obtain ⟨w₁, hcheck, ho⟩ := Service.checkpoint_of_faulty hfault
      have hsilent := records_checkpoint s.sink s "after-run" w
      rw [hcheck] at hsilent
      have hsame : fallbackOutcome s r w₁ = fallbackOutcome s r w := by
        rw [fallbackOutcome, Service.isFaulty_of_sameFlags ho.steady.sameFlags, fallbackOutcome]
      rw [close_ok provider r summary hcheck]
      refine hsilent.trans fun es hes => ?_
      refine (recorded_fallback s provider r (s.fault "after-run") w₁).mono fun fs hfs => ?_
      obtain ⟨hend, rfl⟩ := hfs
      rw [hes.1]
      refine ⟨?_, rfl⟩
      rw [Except.map, resume, hend, hsame]
      exact .faulted summary hfault
    | false =>
      rw [close_ok provider r summary (Service.checkpoint_of_quiet hfault)]
      refine (records_succeeded s provider r summary w).mono fun es hes => ?_
      obtain ⟨hend, rfl⟩ := hes
      refine ⟨?_, rfl⟩
      rw [Except.map, resume, hend]
      exact .succeeded summary hfault

end

theorem meantime_of_ask {s : Option Sink} {p : Provider τ σ}
    (hp : ∀ system user json, Moves (Grows s) (p.generate system user json))
    (system text : String) :
    Moves (Through s Entry.IsMeantime) (ask (History.provider p) system text) := by
  refine Moves.bind (meantime_of_reply (hp _ _ _)) fun answer => ?_
  extract_lets output
  split
  · exact Moves.fail _
  · exact Moves.pure _

section

variable [Clock τ] {s : Service} {p : Provider τ σ} {wait : Binary64 → Run τ σ Unit}
  {w : World τ σ} {text : String} {settings : Json} {r : Request}

/-- A summary of which something is noted. -/
def noted (s : Service) (p : Provider τ σ) (wait : Binary64 → Run τ σ Unit) (text : String)
    (settings : Json) : Run τ (List (Passage τ σ) × σ) Result :=
  summarizeUnder s (History.guard s.guard) (History.provider p) (History.waiting wait) text settings

theorem mirrors_noted (s : Service) (p : Provider τ σ) (wait : Binary64 → Run τ σ Unit)
    (text : String) (settings : Json) :
    Mirrors Prod.snd (noted s p wait text settings) (summarize s p wait text settings) :=
  mirrors_summarizeUnder (History.follow_guard (Breaker.mirrors_guard Prod.snd s.breaker))
    (History.mirror_provider p) (History.mirrors_waiting wait) s text settings

/-- A call that gets as far as its breaker counts its retries, and then what they come to. -/
theorem recorded_attempted
    (hp : ∀ system user json, Moves (Grows s.sink) (p.generate system user json))
    (hwait : ∀ d, Moves (Grows s.sink) (wait d)) (hr : Request.of text settings = .ok r)
    (hquiet : s.isFaulty w "before-run" = false) :
    Recorded s.sink (fun es => Reckoned s p wait text settings w (counts es) (passages es))
      (withJournal [] w) (noted s p wait text settings (withJournal [] w)).2 := by
  have htell : ∀ f made, Records s.sink
      (onRetry s p.name r.used f made : Run τ (List (Passage τ σ) × σ) Unit)
      fun q es => q = .ok () ∧ es = [.counted (retryCount s r.used f made)] :=
    fun f made => records_logged_count s.sink (retryCount s r.used f made) (by simp)
  cases h : s.attempts (History.guard s.guard) (History.waiting wait) Failure.isTransient
      (onRetry s p.name r.used) (ask (History.provider p) r.system r.text.val)
      (withJournal [] w) with
  | mk a w₁ =>
    have hplain := run_of_mirrors (mirrors_attempts
      (History.follow_guard (Breaker.mirrors_guard Prod.snd s.breaker)) (History.mirror_provider p)
      (History.mirrors_waiting wait) s p.name r.used r.system r.text.val) h
    have hquiet' : s.isFaulty (withJournal ([] : List (Passage τ σ)) w) "before-run" = false :=
      hquiet
    -- what is noted ends with the attempts: what closes the call is the same without it
    have hclose : noted s p wait text settings (withJournal [] w) =
        close s (History.provider p).name r a w₁ := by
      rw [noted, summarizeUnder_close hr hquiet' h]
    have hcall := journal_of_mirrors (mirrors_noted s p wait text settings) (w := w) rfl
    have hend : (noted s p wait text settings (withJournal [] w)).1 =
        (summarize s p wait text settings w).1 := by rw [hcall]
    rw [hclose] at hend ⊢
    refine (recorded_after_attempts s (meantime_of_ask hp r.system r.text.val)
      (History.records_waiting hwait) htell Failure.isTransient h
      (recorded_close s p.name r a w₁)).mono fun es hes => ?_
    obtain ⟨retries, outcome, hcounts, hretried, hsettled⟩ := hes
    rw [hcounts]
    refine .attempted r hr hquiet a (without w₁) hplain retries outcome _ hretried ?_
    rw [← hend]
    exact hsettled.without

theorem accounts_noted
    (hp : ∀ system user json, Moves (Grows s.sink) (p.generate system user json))
    (hwait : ∀ d, Moves (Grows s.sink) (wait d)) (hw : w.Fit s.sink) (text : String)
    (settings : Json) :
    Accounts s.sink (noted s p wait text settings) (summarize s p wait text settings) w
      (Reckoned s p wait text settings w) := by
  refine accounts_of_recorded (mirrors_noted s p wait text settings) hw ?_
  cases hr : Request.of text settings with
  | error issues =>
    have hrejected : noted s p wait text settings = Effect.fail (Schema.rejected issues) := by
      rw [noted, summarizeUnder, hr]
    rw [hrejected]
    exact recorded_refl s.sink _ (.invalid issues hr)
  | ok r =>
    cases hfault : s.isFaulty w "before-run" with
    | true =>
      obtain ⟨w₁, hcheck, -⟩ := Service.checkpoint_of_faulty (w := withJournal [] w) hfault
      have hsilent := records_checkpoint s.sink s "before-run" (withJournal [] w)
      rw [hcheck] at hsilent
      rw [noted, summarizeUnder_eq hr, bind_of_error hcheck]
      refine hsilent.mono fun es hes => ?_
      rw [hes.1]
      exact .faulty r hr hfault
    | false => exact recorded_attempted hp hwait hr hfault

end

end Summary

/-! ## Batches -/

namespace Localization

/-- How a retry is counted. -/
def retryCount (s : Service) (provider : String) (b : Batch) (f : Failure) (made : Nat) : Count :=
  ⟨s.retryMetric,
    labels provider b ++
      [("attempt", .int made), ("status", Service.retryStatusLabel f.status)]⟩

/-- How an outcome is counted. -/
def outcomeCount (s : Service) (provider : String) (b : Batch) (result : String) (status : Json) :
    Count :=
  ⟨s.outcomeMetric, labels provider b ++ [("result", .text result), ("status", status)]⟩

def successCount (s : Service) (provider : String) (b : Batch) : Count :=
  outcomeCount s provider b "success" (.int 200)

def errorCount (s : Service) (provider : String) (b : Batch) (f : Failure) : Count :=
  outcomeCount s provider b "error" (Service.statusLabel f.status)

/-- How a call ends whose attempts ended so, in the world that they left, and what is counted of
it: a success if it returns, an error if its attempts fail, and nothing if a fault is injected into
what was translated. -/
inductive Settled (s : Service) (provider : String) (b : Batch) (w : World τ σ) :
    Except Stop (List Result) → Except Stop (List Result) → List Count → Prop where
  | succeeded (results : List Result) (h : s.isFaulty w "after-run" = false) :
    Settled s provider b w (.ok results) (.ok (align b.entries results))
      [successCount s provider b]
  | faulted (results : List Result) (h : s.isFaulty w "after-run" = true) :
    Settled s provider b w (.ok results) (.error (.failed (s.fault "after-run"))) []
  | failed (f : Failure) :
    Settled s provider b w (.error (.failed f))
      (.error (.failed
        (.untranslated "Failed to translate batch after retries" f.claimsRetriable (some f))))
      [errorCount s provider b f]
  | cancelled : Settled s provider b w (.error .cancelled) (.error .cancelled) []

/-- What is counted of a call, given what was noted of it: nothing if there is nothing to translate,
or too much, or a fault is injected before the breaker is asked, and otherwise the retries of its
attempts, and after them what they come to. -/
inductive Reckoned [Clock τ] (s : Service) (p : Provider τ σ) (wait : Binary64 → Run τ σ Unit)
    (b : Batch) (w : World τ σ) : List Count → List (Passage τ σ) → Prop where
  | empty (h : b.entries = []) : Reckoned s p wait b w [] []
  | excessive (f : Failure) (h : b.checkLimits = .error f) : Reckoned s p wait b w [] []
  | faulty (hb : b.entries ≠ []) (hlimits : b.checkLimits = .ok ())
      (h : s.isFaulty w "before-run" = true) : Reckoned s p wait b w [] []
  | attempted (hb : b.entries ≠ []) (hlimits : b.checkLimits = .ok ())
      (h : s.isFaulty w "before-run" = false) (a : Except Stop (List Result)) (w' : World τ σ)
      (ha : s.attempts s.guard wait (fun f => .ok f.isRetriable) (onRetry s p.name b)
        (p.translate b) w = (a, w'))
      (retries outcome : List Count) (ps : List (Passage τ σ))
      (hretried : Retried (retryCount s p.name b) (s.guard.check w).1 retries ps)
      (hsettled : Settled s p.name b w' a (translateBatch s p wait b w).1 outcome) :
    Reckoned s p wait b w (retries ++ outcome) ps

section

variable {s : Service} {provider : String} {b : Batch} {w : Noted (Passage τ σ) τ σ}

/-- What is noted makes no difference to what is counted. -/
theorem Settled.without {a e : Except Stop (List Result)} {cs : List Count}
    (h : Settled s provider b w a e cs) : Settled s provider b (Journal.without w) a e cs := by
  cases h with
  | succeeded results h => exact .succeeded results h
  | faulted results h => exact .faulted results h
  | failed f => exact .failed f
  | cancelled => exact .cancelled

theorem records_failed (s : Service) (provider : String) (b : Batch) (f : Failure) :
    Records s.sink (failed s provider b f : Run τ (List (Passage τ σ) × σ) (List Result))
      fun r es => r = .error (.failed (.untranslated "Failed to translate batch after retries"
        f.claimsRetriable (some f))) ∧ es = [.counted (errorCount s provider b f)] :=
  records_count_logged s.sink (errorCount s provider b f) (by simp) (.error (.failed _))

theorem recorded_succeeded (provider : String) (b : Batch) (results : List Result)
    (h : s.isFaulty w "after-run" = false) :
    Recorded s.sink (fun es =>
      (succeeded s provider b results w).1 = .ok (align b.entries results) ∧
        es = [.counted (successCount s provider b)]) w (succeeded s provider b results w).2 := by
  rw [succeeded, bind_of_ok (Service.checkpoint_of_quiet h)]
  exact records_count_logged s.sink (successCount s provider b) (by simp) (.ok _) w

/-- Whatever the attempts ended in, no more than one outcome is counted after them. -/
theorem recorded_resume (s : Service) (provider : String) (b : Batch)
    (a : Except Stop (List Result)) (w : Noted (Passage τ σ) τ σ) :
    Recorded s.sink (fun es => Settled s provider b w a (resume s provider b a w).1 (counts es) ∧
      passages es = []) w (resume s provider b a w).2 := by
  rcases a with (f | _) | results
  · refine (records_failed s provider b f w).mono fun es hes => ?_
    obtain ⟨hend, rfl⟩ := hes
    refine ⟨?_, rfl⟩
    rw [resume, hend]
    exact .failed f
  · exact recorded_refl s.sink w ⟨.cancelled, rfl⟩
  · cases hfault : s.isFaulty w "after-run" with
    | true =>
      obtain ⟨w₁, hcheck, -⟩ := Service.checkpoint_of_faulty hfault
      have hsilent := records_checkpoint s.sink s "after-run" w
      rw [hcheck] at hsilent
      have hend : resume s provider b (.ok results) w =
          (.error (.failed (s.fault "after-run")), w₁) := bind_of_error hcheck _
      rw [hend]
      refine hsilent.mono fun es hes => ?_
      rw [hes.1]
      exact ⟨.faulted results hfault, rfl⟩
    | false =>
      refine (recorded_succeeded provider b results hfault).mono fun es hes => ?_
      obtain ⟨hend, rfl⟩ := hes
      refine ⟨?_, rfl⟩
      rw [resume, hend]
      exact .succeeded results hfault

end

section

variable [Clock τ] {s : Service} {p : Provider τ σ} {wait : Binary64 → Run τ σ Unit}
  {w : World τ σ} {b : Batch}

/-- A batch of whose translation something is noted. -/
def noted (s : Service) (p : Provider τ σ) (wait : Binary64 → Run τ σ Unit) (b : Batch) :
    Run τ (List (Passage τ σ) × σ) (List Result) :=
  translateBatchUnder s (History.guard s.guard) (History.provider p) (History.waiting wait) b

theorem mirrors_noted (s : Service) (p : Provider τ σ) (wait : Binary64 → Run τ σ Unit)
    (b : Batch) : Mirrors Prod.snd (noted s p wait b) (translateBatch s p wait b) :=
  mirrors_translateBatchUnder (History.follow_guard (Breaker.mirrors_guard Prod.snd s.breaker))
    (History.mirror_provider p) (History.mirrors_waiting wait) s b

/-- A call that gets as far as its breaker counts its retries, and then what they come to. -/
theorem recorded_attempted (hp : ∀ b, Moves (Grows s.sink) (p.translate b))
    (hwait : ∀ d, Moves (Grows s.sink) (wait d)) (hb : b.entries ≠ [])
    (hlimits : b.checkLimits = .ok ()) (hquiet : s.isFaulty w "before-run" = false) :
    Recorded s.sink (fun es => Reckoned s p wait b w (counts es) (passages es))
      (withJournal [] w) (noted s p wait b (withJournal [] w)).2 := by
  have htell : ∀ f made, Records s.sink
      (onRetry s p.name b f made : Run τ (List (Passage τ σ) × σ) Unit)
      fun q es => q = .ok () ∧ es = [.counted (retryCount s p.name b f made)] :=
    fun f made => records_logged_count s.sink (retryCount s p.name b f made) (by simp)
  have htranslate : Moves (Through s.sink Entry.IsMeantime) ((History.provider p).translate b) :=
    meantime_of_reply (hp b)
  cases h : s.attempts (History.guard s.guard) (History.waiting wait) (fun f => .ok f.isRetriable)
      (onRetry s p.name b) ((History.provider p).translate b) (withJournal [] w) with
  | mk a w₁ =>
    have hplain := run_of_mirrors (mirrors_attempts
      (History.follow_guard (Breaker.mirrors_guard Prod.snd s.breaker)) (History.mirror_provider p)
      (History.mirrors_waiting wait) s p.name b) h
    have hquiet' : s.isFaulty (withJournal ([] : List (Passage τ σ)) w) "before-run" = false :=
      hquiet
    have hresume : noted s p wait b (withJournal [] w) =
        resume s (History.provider p).name b a w₁ := by
      rw [noted, translateBatchUnder_eq (p := History.provider p) hb hlimits hquiet' h]
    have hcall := journal_of_mirrors (mirrors_noted s p wait b) (w := w) rfl
    have hend : (noted s p wait b (withJournal [] w)).1 = (translateBatch s p wait b w).1 := by
      rw [hcall]
    rw [hresume] at hend ⊢
    refine (recorded_after_attempts s htranslate (History.records_waiting hwait) htell
      (fun f => .ok f.isRetriable) h (recorded_resume s p.name b a w₁)).mono fun es hes => ?_
    obtain ⟨retries, outcome, hcounts, hretried, hsettled⟩ := hes
    rw [hcounts]
    refine .attempted hb hlimits hquiet a (without w₁) hplain retries outcome _ hretried ?_
    rw [← hend]
    exact hsettled.without

theorem accounts_noted (hp : ∀ b, Moves (Grows s.sink) (p.translate b))
    (hwait : ∀ d, Moves (Grows s.sink) (wait d)) (hw : w.Fit s.sink) (b : Batch) :
    Accounts s.sink (noted s p wait b) (translateBatch s p wait b) w (Reckoned s p wait b w) := by
  refine accounts_of_recorded (mirrors_noted s p wait b) hw ?_
  by_cases hb : b.entries = []
  · have hnothing : noted s p wait b = Effect.conclude (.ok []) := by
      rw [noted, translateBatchUnder, if_pos (by simp [hb])]
      rfl
    rw [hnothing, conclude_apply]
    exact recorded_refl s.sink _ (.empty hb)
  cases hlimits : b.checkLimits with
  | error f =>
    have hrefused : noted s p wait b = Effect.fail f := by
      rw [noted, translateBatchUnder, if_neg (by simp [hb]), hlimits]
    rw [hrefused]
    exact recorded_refl s.sink _ (.excessive f hlimits)
  | ok u =>
    cases hfault : s.isFaulty w "before-run" with
    | true =>
      obtain ⟨w₁, hcheck, -⟩ := Service.checkpoint_of_faulty (w := withJournal [] w) hfault
      have hsilent := records_checkpoint s.sink s "before-run" (withJournal [] w)
      rw [hcheck] at hsilent
      have hend : noted s p wait b (withJournal [] w) =
          (.error (.failed (s.fault "before-run")), w₁) := by
        rw [noted, translateBatchUnder, if_neg (by simp [hb]), hlimits]
        exact bind_of_error hcheck _
      rw [hend]
      refine hsilent.mono fun es hes => ?_
      rw [hes.1]
      exact .faulty hb hlimits hfault
    | false => exact recorded_attempted hp hwait hb hlimits hfault

end

end Localization

namespace Service

/-- Neither outcomes nor retries are counted twice or forgotten. Whatever the provider and the waits
do, as long as nothing that was counted is taken back outside, the sink in use shows the history of
the call: its retries, numbered from one, one less than its attempts or just as many if the last
wait did not return; after them its outcome; and otherwise what breakers counted and what was
counted outside. Calls that do not get as far as their breaker count nothing. -/
theorem counts_conserved [Clock τ] (s : Service) (p : Provider τ σ)
    (wait : Binary64 → Run τ σ Unit)
    (hgenerate : ∀ system user json, Moves (Grows s.sink) (p.generate system user json))
    (htranslate : ∀ b, Moves (Grows s.sink) (p.translate b))
    (hwait : ∀ d, Moves (Grows s.sink) (wait d)) {w : World τ σ} (hw : w.Fit s.sink) :
    (∀ text settings,
      Accounts s.sink (Summary.noted s p wait text settings)
        (Summary.summarize s p wait text settings) w
        (Summary.Reckoned s p wait text settings w)) ∧
    (∀ b,
      Accounts s.sink (Localization.noted s p wait b) (Localization.translateBatch s p wait b) w
        (Localization.Reckoned s p wait b w)) ∧
    ∀ request,
      (∀ issues, Localization.Batch.ofJson request = .error issues →
        Localization.translate s p wait request w =
          (.error (.failed (Schema.rejected issues)), w)) ∧
      ∀ b, Localization.Batch.ofJson request = .ok b →
        Localization.translate s p wait request = Localization.translateBatch s p wait b := by
  refine ⟨Summary.accounts_noted hgenerate hwait hw,
    Localization.accounts_noted htranslate hwait hw,
    fun request => ⟨fun issues hissues => ?_, fun b hb => ?_⟩⟩
  · rw [Localization.translate, hissues]
    rfl
  · rw [Localization.translate, hb]

end Service

namespace Service.Unanswered

/-- The provider that an adapter reaches, to which every request is one too many. -/
def overloaded : Provider Number Unit :=
  .ofAdapter Provider.Adapter.Overloaded.adapter Provider.Adapter.Overloaded.transport none

/-- What becomes of the batch, and of the world in which it is translated. -/
def translated : Except Stop (List Localization.Result) × World Number Unit :=
  Localization.translateBatch service overloaded wait batch session.world

theorem grow : Provider.Adapter.Overloaded.transport.Grow service.sink where
  send _ := Moves.pure _
  stopwatch := Moves.pure _

theorem fit : (session.world : World Number Unit).Fit service.sink where
  delivers f h := by cases h
  hasSinks k hk := by rcases hk with hk | hk <;> cases hk

theorem attempts_refused : ∃ f : Failure,
    (service.attempts service.guard wait (fun f => .ok f.isRetriable)
      (Localization.onRetry service overloaded.name batch) (overloaded.translate batch)
      session.world).1 = .error (.failed f) := by
  have hrefused : isRefused (service.attempts service.guard wait (fun f => .ok f.isRetriable)
      (Localization.onRetry service overloaded.name batch) (overloaded.translate batch)
      session.world).1 = true := by decide +kernel
  generalize (service.attempts service.guard wait (fun f => .ok f.isRetriable)
      (Localization.onRetry service overloaded.name batch) (overloaded.translate batch)
      session.world).1 = r at hrefused ⊢
  rcases r with (f | _) | results
  · exact ⟨f, rfl⟩
  · cases hrefused
  · cases hrefused

/-- The second of two attempts is refused, after a wait that returns. -/
theorem noted_twice :
    (Localization.noted service overloaded wait batch
        (withJournal [] session.world)).2.outside.1.countP (·.isBegan) = 2 ∧
      ∀ p ∈ (Localization.noted service overloaded wait batch
        (withJournal [] session.world)).2.outside.1, p.isRaised = false := by
  decide +kernel

/-- Of two attempts, the second of which is refused, one retry is counted, and then an error. -/
theorem counts_conserved_refused : ∃ ps : List (Passage Number Unit),
    Localization.noted service overloaded wait batch (withJournal [] session.world) =
      (translated.1, withJournal ps translated.2) ∧
    ps.countP (·.isBegan) = 2 ∧
    ∀ k, translated.2.UsesOnly service.sink k → ∃ (es : List (Entry Number Unit)) (f f' : Failure),
      passages es = ps ∧
      translated.2.sightings .count k =
        session.world.sightings .count k ++ es.flatMap (Entry.shown k) ∧
      counts es = [Localization.retryCount service overloaded.name batch f 1,
        Localization.errorCount service overloaded.name batch f'] := by
  obtain ⟨hgenerate, htranslate⟩ := Provider.grows_ofAdapter
    Provider.Adapter.Overloaded.adapter grow (Or.inl rfl)
  obtain ⟨-, hbatches, -⟩ := counts_conserved service overloaded wait hgenerate htranslate
    (fun _ => Moves.pure _) fit
  obtain ⟨ps, hnoted, hes⟩ := hbatches batch
  have hps : (Localization.noted service overloaded wait batch
      (withJournal [] session.world)).2.outside.1 = ps := by
    rw [hnoted]
    rfl
  obtain ⟨hbegan, hcalm⟩ := noted_twice
  rw [hps] at hbegan hcalm
  refine ⟨ps, hnoted, hbegan, fun k hk => ?_⟩
  obtain ⟨es, hpassages, hshown, hreckoned⟩ := hes k hk
  generalize hcs : counts es = cs at hreckoned
  cases hreckoned with
  | empty hb => cases hb
  | excessive f hlimits => cases hlimits
  | faulty hb hlimits h => cases h
  | attempted hb hlimits h a w' ha retries outcome ps hretried hsettled =>
    obtain ⟨f', hf'⟩ := attempts_refused
    obtain rfl : a = .error (.failed f') := by rw [← hf', ha]
    have hcheck : (service.guard.check session.world).1 = .ok () := rfl
    rw [hcheck] at hretried
    generalize (Localization.translateBatch service overloaded wait batch session.world).1 = e
      at hsettled
    cases hsettled
    cases hretried with
    | begun retries ps hretold =>
      obtain ⟨fs, rfl, hlength⟩ := hretold.exists_of_calm hcalm
      rw [hbegan] at hlength
      obtain ⟨f, rfl⟩ := List.length_eq_one_iff.1 (Nat.succ.inj hlength)
      exact ⟨es, f, f', hpassages, hshown, hcs⟩

end Service.Unanswered

end ResilientCalls
