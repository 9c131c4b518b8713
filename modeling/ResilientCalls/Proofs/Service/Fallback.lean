import Mathlib.Algebra.Order.Floor.Ring
import Mathlib.Data.Rat.Floor
import Mathlib.Tactic.Linarith
import ResilientCalls.Proofs.Breaker.Session
import ResilientCalls.Proofs.Extract
import ResilientCalls.Proofs.Service.Journal
import ResilientCalls.Proofs.Service.Motion

namespace ResilientCalls

open Effect World

variable {τ σ α : Type}

theorem returns_apply {x : Run τ σ α} (hm : Moves Observed x) (hx : Returns Delivers x)
    {w : World τ σ} (hw : w.Delivers) :
    ∃ a w', x w = (.ok a, w') ∧ Observed w w' ∧ w'.Delivers := by
  obtain ⟨hw', a, ha⟩ := hx w hw
  exact ⟨a, (x w).2, Prod.ext ha rfl, hm w, hw'⟩

/-- A world and a later one in which the same checkpoints are enabled. -/
structure World.SameFlags (w w' : World τ σ) : Prop where
  processFlags : w'.processFlags = w.processFlags
  environment : w'.environment = w.environment

instance : Std.Refl (@SameFlags τ σ) := ⟨fun _ => ⟨rfl, rfl⟩⟩

instance : IsTrans (World τ σ) SameFlags :=
  ⟨fun _ _ _ h k => ⟨k.processFlags.trans h.processFlags, k.environment.trans h.environment⟩⟩

theorem World.Steady.sameFlags {w w' : World τ σ} (h : Steady w w') : SameFlags w w' :=
  ⟨h.processFlags, h.environment⟩

namespace Service

/-- Is the checkpoint of a stage enabled? -/
def isFaulty (s : Service) (w : World τ σ) (stage : String) : Bool :=
  s.faults.isEnabled w (s.task.name ++ "." ++ stage)

/-- The failure at the checkpoint of a stage. -/
def fault (s : Service) (stage : String) : Failure := .injected (s.task.name ++ "." ++ stage)

/-- What is logged of the failure at the checkpoint of a stage. -/
def faultRecord (s : Service) (stage : String) : LogRecord :=
  Fault.injectingRecord (.text (s.task.name ++ "." ++ stage))

theorem isFaulty_of_sameFlags {w w' : World τ σ} (h : SameFlags w w') (s : Service)
    (stage : String) : s.isFaulty w' stage = s.isFaulty w stage := by
  unfold isFaulty Fault.Harness.isEnabled Fault.isEnabled
  rw [h.processFlags, h.environment]

theorem checkpoint_of_quiet {s : Service} {stage : String} {w : World τ σ}
    (h : s.isFaulty w stage = false) : s.checkpoint stage w = (.ok (), w) := by
  unfold isFaulty at h
  unfold checkpoint Fault.Harness.inject Fault.Harness.injectAs
  rw [get_bind_apply, h]
  rfl

theorem checkpoint_faulty_apply {s : Service} {stage : String} {w : World τ σ}
    (h : s.isFaulty w stage = true) :
    s.checkpoint stage w = (.error (.failed (s.fault stage)), w.addLog (s.faultRecord stage)) := by
  unfold isFaulty at h
  unfold checkpoint Fault.Harness.inject Fault.Harness.injectAs
  rw [get_bind_apply, h]
  rfl

theorem checkpoint_of_faulty {s : Service} {stage : String} {w : World τ σ}
    (h : s.isFaulty w stage = true) :
    ∃ w', s.checkpoint stage w = (.error (.failed (s.fault stage)), w') ∧ Observed w w' :=
  ⟨_, checkpoint_faulty_apply h, moves_logged (s.faultRecord stage) w⟩

end Service

namespace Summary

namespace Request

/-- The settings that a request is answered with. -/
def used (r : Request) : Settings := r.settings.getD .default

def system (r : Request) : String :=
  systemPrompt r.used.maxLength.val r.used.style r.used.language.val

def inputTokens (r : Request) : Nat := tokens (r.system.length + r.text.val.length)

/-- A text that is within bounds when it is trimmed is a valid request. -/
theorem of_eq {text : String} {settings : Json}
    (h : minText ≤ (Text.trimmed text).length ∧ (Text.trimmed text).length ≤ maxText)
    {chosen : Option Settings} (hc : Schema.nullable Settings.ofJson settings = .ok chosen) :
    Request.of text settings = .ok ⟨⟨Text.trimmed text, h⟩, chosen⟩ := by
  have htext : Schema.textWithin minText maxText (.text (Text.trimmed text)) =
      .ok ⟨Text.trimmed text, h⟩ := by
    simp [Schema.textWithin, Schema.text, h.1, h.2]
  have hfirst : textName.find? [(textName.wire, .text (Text.trimmed text)),
      (settingsName.wire, settings)] = some (textName.wire, .text (Text.trimmed text)) := rfl
  have hsecond : settingsName.find? [(textName.wire, .text (Text.trimmed text)),
      (settingsName.wire, settings)] = some (settingsName.wire, settings) := rfl
  unfold Request.of Request.ofJson Schema.record Request.ofFields Schema.required Schema.optional
  simp only [hfirst, hsecond, htext, hc]
  rfl

end Request

/-- One token for every four characters, rounded up. -/
theorem tokens_eq_ceil (n : ℕ) : (tokens n : ℤ) = ⌈(n : ℚ) / 4⌉ := by
  symm
  rw [Int.ceil_eq_iff]
  have hlow : n ≤ 4 * tokens n := by
    unfold tokens
    omega
  have hhigh : 4 * tokens n < n + 4 := by
    unfold tokens
    omega
  have hlow' : (n : ℚ) ≤ 4 * (tokens n : ℚ) := by exact_mod_cast hlow
  have hhigh' : 4 * (tokens n : ℚ) < n + 4 := by exact_mod_cast hhigh
  constructor
  · push_cast
    linarith
  · push_cast
    linarith

/-- What is answered once the model's summary is there or is not. -/
def resume (s : Service) (provider : String) (r : Request) : Except Stop CodePoints → Run τ σ Result
  | .ok summary => succeeded s provider r.used r.text.val r.inputTokens summary
  | .error (.failed f) => fallback s provider r.used r.text.val r.inputTokens f
  | .error .cancelled => Effect.stop .cancelled

section

variable {s : Service} {g : Breaker.Guard (World τ σ)} {p : Provider τ σ}
  {wait : Binary64 → Run τ σ Unit} {text : String} {settings : Json} {r : Request}
  {w w' : World τ σ}

theorem summarizeUnder_eq (hr : Request.of text settings = .ok r) :
    summarizeUnder s g p wait text settings = (do
      s.checkpoint "before-run"
      let summary ← Effect.ending (modelSummary s g p wait r.used r.system r.text.val)
      resume s p.name r summary) := by
  unfold summarizeUnder
  rw [hr]
  rfl

theorem summarizeUnder_apply (hr : Request.of text settings = .ok r)
    (hquiet : s.isFaulty w "before-run" = false) {x : Except Stop CodePoints}
    (h : modelSummary s g p wait r.used r.system r.text.val w = (x, w')) :
    summarizeUnder s g p wait text settings w = resume s p.name r x w' := by
  rw [summarizeUnder_eq hr, bind_of_ok (Service.checkpoint_of_quiet hquiet), ending_bind_apply, h]

theorem summarizeUnder_of_faulty (g : Breaker.Guard (World τ σ)) (p : Provider τ σ)
    (wait : Binary64 → Run τ σ Unit) (hr : Request.of text settings = .ok r)
    (hfaulty : s.isFaulty w "before-run" = true) :
    ∃ w', summarizeUnder s g p wait text settings w =
      (.error (.failed (s.fault "before-run")), w') ∧ Observed w w' := by
  obtain ⟨w', hcheck, ho⟩ := Service.checkpoint_of_faulty hfaulty
  refine ⟨w', ?_, ho⟩
  rw [summarizeUnder_eq hr, bind_of_error hcheck]

/-- The extract, unless the checkpoint before it is enabled. -/
def fallbackOutcome (s : Service) (r : Request) (w : World τ σ) : Except Stop Result :=
  if s.isFaulty w "fallback" then .error (.failed (s.fault "fallback"))
  else
    .ok (Result.of (.ofString (extract r.text.val r.used.maxLength.val)) r.text.val r.inputTokens)

/-- What a call comes to whose attempts ended so: the model's summary if there is one and the
checkpoint after it is not enabled, and otherwise the extract. -/
def outcome (s : Service) (r : Request) (w : World τ σ) :
    Except Stop CodePoints → Except Stop Result
  | .ok summary =>
    if s.isFaulty w "after-run" then fallbackOutcome s r w
    else .ok (Result.of summary r.text.val r.inputTokens)
  | .error (.failed _) => fallbackOutcome s r w
  | .error .cancelled => .error .cancelled

theorem fallback_apply (provider : String) (f : Failure) (hw : w.Delivers) :
    ∃ w', fallback s provider r.used r.text.val r.inputTokens f w = (fallbackOutcome s r w, w') ∧
      Observed w w' := by
  refine ⟨_, Prod.ext ?_ rfl, moves_fallback s provider r.used r.text.val r.inputTokens f w⟩
  obtain ⟨u₁, w₁, hlog, ho₁, hw₁⟩ := returns_apply (moves_logged _) (returns_logged _) hw
  obtain ⟨u₂, w₂, hcount, ho₂, -⟩ :=
    returns_apply (Sink.moves_count _ _ _) (Sink.returns_count _ _ _) hw₁
  have ho : Observed w w₂ := trans_of Observed ho₁ ho₂
  have hsame : s.isFaulty w₂ "fallback" = s.isFaulty w "fallback" :=
    Service.isFaulty_of_sameFlags ho.steady.sameFlags s _
  rw [fallback, Service.logged, bind_of_ok hlog, Service.count, bind_of_ok hcount, fallbackOutcome,
    ← hsame]
  cases hfault : s.isFaulty w₂ "fallback" with
  | true =>
    obtain ⟨w₃, hcheck, -⟩ := Service.checkpoint_of_faulty hfault
    rw [bind_of_error hcheck]
    rfl
  | false =>
    rw [bind_of_ok (Service.checkpoint_of_quiet hfault)]
    rfl

theorem succeeded_apply (provider : String) (summary : CodePoints) (hw : w.Delivers) :
    ∃ w', succeeded s provider r.used r.text.val r.inputTokens summary w =
      (.ok (Result.of summary r.text.val r.inputTokens), w') ∧ Observed w w' := by
  obtain ⟨u₁, w₁, hcount, ho₁, hw₁⟩ :=
    returns_apply (Sink.moves_count _ _ _) (Sink.returns_count _ _ _) hw
  obtain ⟨u₂, w₂, hlog, ho₂, -⟩ := returns_apply (moves_logged _) (returns_logged _) hw₁
  refine ⟨w₂, ?_, trans_of Observed ho₁ ho₂⟩
  rw [succeeded, Service.count, bind_of_ok hcount, Service.logged, bind_of_ok hlog]
  rfl

/-- How the attempts end decides what the call comes to. -/
theorem summarizeUnder_of_attempts (hr : Request.of text settings = .ok r)
    (hquiet : s.isFaulty w "before-run" = false) {a : Except Stop CodePoints}
    (h : s.attempts g wait Failure.isTransient (onRetry s p.name r.used)
      (ask p r.system r.text.val) w = (a, w')) (hw' : w'.Delivers) :
    ∃ w'', summarizeUnder s g p wait text settings w = (outcome s r w' a, w'') ∧
      Observed w' w'' := by
  rcases a with (f | _) | summary
  · have hmodel : modelSummary s g p wait r.used r.system r.text.val w = (.error (.failed f), w') :=
      bind_of_error h _
    rw [summarizeUnder_apply hr hquiet hmodel]
    exact fallback_apply p.name f hw'
  · have hmodel : modelSummary s g p wait r.used r.system r.text.val w = (.error .cancelled, w') :=
      bind_of_error h _
    rw [summarizeUnder_apply hr hquiet hmodel]
    exact ⟨w', rfl, refl_of Observed w'⟩
  · cases hfault : s.isFaulty w' "after-run" with
    | true =>
      -- a fault after the attempts is caught as one of their own failures
      obtain ⟨w₁, hcheck, ho₁⟩ := Service.checkpoint_of_faulty hfault
      have hmodel : modelSummary s g p wait r.used r.system r.text.val w =
          (.error (.failed (s.fault "after-run")), w₁) :=
        (bind_of_ok h _).trans (bind_of_error hcheck _)
      obtain ⟨w₂, hfallback, ho₂⟩ := fallback_apply (s := s) (r := r) p.name (s.fault "after-run")
        (ho₁.steady.delivers hw')
      have hout : outcome s r w' (.ok summary) = fallbackOutcome s r w₁ := by
        rw [outcome, hfault, if_pos rfl, fallbackOutcome, fallbackOutcome,
          Service.isFaulty_of_sameFlags ho₁.steady.sameFlags]
      rw [summarizeUnder_apply hr hquiet hmodel, hout]
      exact ⟨w₂, hfallback, trans_of Observed ho₁ ho₂⟩
    | false =>
      have hmodel : modelSummary s g p wait r.used r.system r.text.val w = (.ok summary, w') :=
        (bind_of_ok h _).trans (bind_of_ok (Service.checkpoint_of_quiet hfault) _)
      have hout : outcome s r w' (.ok summary) =
          .ok (Result.of summary r.text.val r.inputTokens) := by
        rw [outcome, hfault, if_neg (by simp)]
      rw [summarizeUnder_apply hr hquiet hmodel, hout]
      exact succeeded_apply p.name summary hw'

end

/-- A summary is the last answer of the model without the blanks at its ends, and is not empty. -/
def Answered (r : Except Stop CodePoints) (answers : List (Option CodePoints)) : Prop :=
  match r with
  | .ok summary => summary ≠ [] ∧
    ∃ answer : CodePoints, answers.getLast? = some (some answer) ∧ summary = answer.trim
  | .error (.failed _) => True
  | .error .cancelled => False

theorem final_answered : Journal.Final Answered where
  failed _ _ := trivial
  prepend r js ks h := by
    rcases r with (f | _) | summary
    · trivial
    · exact h
    · obtain ⟨hne, answer, hlast, hsummary⟩ := h
      refine ⟨hne, answer, ?_, hsummary⟩
      rw [List.getLast?_append, hlast]
      rfl

/-- The provider with its answers noted, and nothing for a call that gives none. -/
def answering (p : Provider τ σ) : Provider τ (List (Option CodePoints) × σ) :=
  Journal.noting Except.toOption (fun _ => none) p

variable {p : Provider τ σ} {wait : Binary64 → Run τ σ Unit}

theorem writes_ask (hp : ∀ system user json, Moves (Keeping Delivers) (p.generate system user json))
    (hanswers : ∀ system user json w, (p.generate system user json w).1 ≠ .error .cancelled)
    (system text : String) : Journal.Writes (ask (answering p) system text) Answered := by
  have hreply : Journal.Writes ((answering p).generate system (userPrompt text) false)
      fun r js => r ≠ .error .cancelled ∧ js = [r.toOption] := by
    intro w hw
    obtain ⟨hd, js, hjs, hreplied⟩ :=
      Journal.writes_replying (hp system (userPrompt text) false) Except.toOption w hw
    refine ⟨hd, js, hjs, ?_, hreplied⟩
    have hfirst := congrArg Prod.fst
      (Journal.replying_apply Except.toOption (p.generate system (userPrompt text) false) w)
    exact hfirst.trans_ne (hanswers system (userPrompt text) false (Journal.without w))
  refine Journal.Writes.bind hreply (fun answer js hjs => ?_) fun e js hjs => ?_
  · obtain ⟨-, rfl⟩ := hjs
    extract_lets output
    split
    · exact Journal.Writes.conclude (.error (.failed _)) trivial
    · exact Journal.Writes.conclude (.ok output) ⟨‹_›, answer, rfl, rfl⟩
  · have he : (.error e : Except Stop CodePoints) ≠ .error .cancelled := hjs.1
    exact final_answered.of_error he js

theorem writes_attempts [Clock τ] (s : Service)
    (hp : ∀ system user json, Moves (Keeping Delivers) (p.generate system user json))
    (hanswers : ∀ system user json w, (p.generate system user json w).1 ≠ .error .cancelled)
    (hwait : ∀ d, Moves (Keeping Delivers) (wait d))
    (hwaits : ∀ d w, (wait d w).1 ≠ .error .cancelled) (settings : Settings)
    (system text : String) : Journal.Writes
      (s.attempts s.guard (fun d => Journal.blind (wait d)) Failure.isTransient
        (onRetry s p.name settings) (ask (answering p) system text)) Answered := by
  have hcheck : Journal.Calm
      (Breaker.check s.breaker : Run τ (List (Option CodePoints) × σ) Unit) :=
    Journal.Writes.of_steady ((Breaker.moves_check s.breaker).mono fun _ _ h => h.steady)
      fun w hw => Breaker.check_ne_cancelled s.breaker hw
  have hcheckpoint : Journal.Calm
      (s.checkpoint "retry-attempt" : Run τ (List (Option CodePoints) × σ) Unit) := by
    refine Journal.Writes.of_steady ((moves_inject _ _).mono fun _ _ h => h.steady) fun w _ => ?_
    cases hfault : s.isFaulty w "retry-attempt" with
    | true =>
      obtain ⟨w', hcheckpoint, -⟩ := Service.checkpoint_of_faulty hfault
      simp [hcheckpoint]
    | false => simp [Service.checkpoint_of_quiet hfault]
  have hbody : Journal.Writes (s.checkpoint "retry-attempt" >>= fun _ =>
      ask (answering p) system text) Answered :=
    final_answered.bind hcheckpoint fun _ => writes_ask hp hanswers system text
  refine final_answered.bind hcheck fun _ => ?_
  refine final_answered.attemptFrom s.policy (fun f => Journal.calm_ofExcept _) ?_ ?_ ?_
    (final_answered.call s.breaker hbody) 1 _
  · intro f made
    exact Journal.calm_of_returns (moves_onRetry s p.name settings f made)
      (Returns.bind (returns_logged _) fun _ => Sink.returns_count _ _ _)
  · intro d
    exact Journal.calm_blind (hwait d) (hwaits d)
  · intro r
    exact Journal.calm_of_returns (moves_logged r) (returns_logged r)

/-- A result reports a text that is not empty. -/
theorem outcome_ok {s : Service} {r : Request} {w : World τ σ} {a : Except Stop CodePoints}
    {answers : List (Option CodePoints)} (ha : Answered a answers) {result : Result}
    (h : outcome s r w a = .ok result) :
    ∃ summary, summary ≠ [] ∧ result = Result.of summary r.text.val r.inputTokens := by
  have hfallback : fallbackOutcome s r w = .ok result →
      ∃ summary, summary ≠ [] ∧ result = Result.of summary r.text.val r.inputTokens := by
    intro hf
    unfold fallbackOutcome at hf
    split at hf
    · cases hf
    · have hne := mt CodePoints.ofString_eq_nil_iff.1
        (extract_ne_empty r.text.val r.used.maxLength.val)
      exact ⟨_, hne, (Except.ok.inj hf).symm⟩
  rcases a with (f | _) | summary
  · exact hfallback h
  · cases h
  · unfold outcome at h
    dsimp only at h
    split at h
    · exact hfallback h
    · exact ⟨summary, ha.1, (Except.ok.inj h).symm⟩

theorem outcome_of_quiet {s : Service} {r : Request} {w : World τ σ} {a : Except Stop CodePoints}
    {answers : List (Option CodePoints)} (ha : Answered a answers)
    (hquiet : s.isFaulty w "fallback" = false) : ∃ result, outcome s r w a = .ok result := by
  have hfallback : ∃ result, fallbackOutcome s r w = .ok result := by
    unfold fallbackOutcome
    rw [hquiet]
    exact ⟨_, rfl⟩
  rcases a with (f | _) | summary
  · exact hfallback
  · exact ha.elim
  · unfold outcome
    dsimp only
    split
    · exact hfallback
    · exact ⟨_, rfl⟩

theorem moves_attempts [Clock τ] (s : Service)
    (hp : ∀ system user json, Moves SameFlags (p.generate system user json))
    (hwait : ∀ d, Moves SameFlags (wait d)) (provider : String) (settings : Settings)
    (system text : String) : Moves SameFlags (s.attempts s.guard wait Failure.isTransient
      (onRetry s provider settings) (ask p system text)) :=
  Service.moves_attempts_guard (fun _ _ h => h.sameFlags) hwait s _
    (moves_onRetry s provider settings) (moves_ask hp system text)

theorem mirrors_answering [Clock τ] (s : Service) (p : Provider τ σ)
    (wait : Binary64 → Run τ σ Unit) (text : String) (settings : Json) :
    Mirrors Prod.snd (summarizeUnder s s.guard (answering p) (fun d => Journal.blind (wait d)) text
      settings) (summarize s p wait text settings) :=
  mirrors_summarizeUnder (Breaker.mirrors_guard Prod.snd s.breaker) (Journal.mirror_noting _ _ p)
    (fun d => Journal.mirrors_blind (wait d)) s text settings

/-- Nothing catches a fault before the attempts, and the provider is not asked. -/
theorem summarize_of_faulty [Clock τ] {s : Service} (p : Provider τ σ)
    (wait : Binary64 → Run τ σ Unit) {text : String} {settings : Json} {r : Request}
    {w : World τ σ} (hr : Request.of text settings = .ok r)
    (hbefore : s.isFaulty w "before-run" = true) :
    summarizeUnder s s.guard (answering p) (fun d => Journal.blind (wait d)) text settings
        (Journal.withJournal [] w) =
      ((summarize s p wait text settings w).1,
        Journal.withJournal [] (summarize s p wait text settings w).2) ∧
      (summarize s p wait text settings w).1 = .error (.failed (s.fault "before-run")) := by
  obtain ⟨w₁, hrun, -⟩ := summarizeUnder_of_faulty s.guard p wait hr hbefore
  have hbefore' : s.isFaulty (Journal.withJournal ([] : List (Option CodePoints)) w) "before-run" =
      true := hbefore
  obtain ⟨w₂, hnoted, ho⟩ := summarizeUnder_of_faulty s.guard (answering p)
    (fun d => Journal.blind (wait d)) hr hbefore'
  refine ⟨Journal.journal_of_mirrors (mirrors_answering s p wait text settings) ?_, ?_⟩
  · rw [hnoted, ho.outside]
    rfl
  · exact congrArg Prod.fst hrun

/-- Without such a fault a call comes to what its attempts decide, and these end as the answers that
were noted say. -/
theorem summarize_of_quiet [Clock τ] {s : Service} {text : String} {settings : Json} {r : Request}
    {w : World τ σ} (hr : Request.of text settings = .ok r)
    (hbefore : s.isFaulty w "before-run" = false) (hw : w.Delivers)
    (hp : ∀ system user json, Moves (Keeping Delivers) (p.generate system user json))
    (hanswers : ∀ system user json w, (p.generate system user json w).1 ≠ .error .cancelled)
    (hwait : ∀ d, Moves (Keeping Delivers) (wait d))
    (hwaits : ∀ d w, (wait d w).1 ≠ .error .cancelled) :
    ∃ answers a w',
      summarizeUnder s s.guard (answering p) (fun d => Journal.blind (wait d)) text settings
          (Journal.withJournal [] w) =
        ((summarize s p wait text settings w).1,
          Journal.withJournal answers (summarize s p wait text settings w).2) ∧
      s.attempts s.guard wait Failure.isTransient (onRetry s p.name r.used)
        (ask p r.system r.text.val) w = (a, w') ∧
      Answered a answers ∧ (summarize s p wait text settings w).1 = outcome s r w' a := by
  have hbefore' : s.isFaulty (Journal.withJournal ([] : List (Option CodePoints)) w) "before-run" =
      false := hbefore
  obtain ⟨hd, answers, hjs, hans⟩ := writes_attempts s hp hanswers hwait hwaits r.used r.system
    r.text.val (Journal.withJournal [] w) hw
  cases hattempts : s.attempts s.guard (fun d => Journal.blind (wait d)) Failure.isTransient
      (onRetry s p.name r.used) (ask (answering p) r.system r.text.val)
      (Journal.withJournal [] w) with
  | mk a w' =>
    rw [hattempts] at hd hjs hans
    -- the attempts without a journal end as those with one do
    have hplain : s.attempts s.guard wait Failure.isTransient (onRetry s p.name r.used)
        (ask p r.system r.text.val) w = (a, Journal.without w') :=
      Journal.run_of_mirrors (mirrors_attempts (Breaker.mirrors_guard Prod.snd s.breaker)
        (Journal.mirror_noting _ _ p) (fun d => Journal.mirrors_blind (wait d)) s p.name r.used
        r.system r.text.val) hattempts
    obtain ⟨w₁, hrun, -⟩ := summarizeUnder_of_attempts hr hbefore hplain hd
    obtain ⟨w₂, hnoted, ho⟩ :=
      summarizeUnder_of_attempts (p := answering p) hr hbefore' hattempts hd
    refine ⟨answers, a, Journal.without w', ?_, hplain, hans, congrArg Prod.fst hrun⟩
    refine Journal.journal_of_mirrors (mirrors_answering s p wait text settings) ?_
    rw [hnoted, ho.outside, hjs]
    rfl

/-- A text that is within bounds is summarized whatever the provider does, unless a fault is
injected before it is asked or before the extract is made. The summary is the model's last answer if
the attempts succeeded and no fault was injected after them, and the extract otherwise; the
checkpoints at the end are as enabled as those at the beginning if nobody touches the flags in
between. -/
theorem summarize_degrades [Clock τ] (s : Service) (p : Provider τ σ)
    (wait : Binary64 → Run τ σ Unit) {text : String} {settings : Json} {w : World τ σ}
    (h : minText ≤ (Text.trimmed text).length ∧ (Text.trimmed text).length ≤ maxText)
    {chosen : Option Settings} (hchosen : Schema.nullable Settings.ofJson settings = .ok chosen)
    (hw : w.Delivers)
    (hp : ∀ system user json, Moves (Keeping Delivers) (p.generate system user json))
    (hanswers : ∀ system user json w, (p.generate system user json w).1 ≠ .error .cancelled)
    (hwait : ∀ d, Moves (Keeping Delivers) (wait d))
    (hwaits : ∀ d w, (wait d w).1 ≠ .error .cancelled) :
    let r : Request := ⟨⟨Text.trimmed text, h⟩, chosen⟩
    let call := summarize s p wait text settings w
    ∃ answers,
      summarizeUnder s s.guard (answering p) (fun d => Journal.blind (wait d)) text settings
          (Journal.withJournal [] w) = (call.1, Journal.withJournal answers call.2) ∧
      (s.isFaulty w "before-run" = true →
        call.1 = .error (.failed (s.fault "before-run")) ∧ answers = []) ∧
      (s.isFaulty w "before-run" = false → ∃ a w',
        s.attempts s.guard wait Failure.isTransient (onRetry s p.name r.used)
          (ask p r.system r.text.val) w = (a, w') ∧
        Answered a answers ∧ call.1 = outcome s r w' a ∧
        (s.isFaulty w' "fallback" = false → ∃ result, call.1 = .ok result) ∧
        ((∀ system user json, Moves SameFlags (p.generate system user json)) →
          (∀ d, Moves SameFlags (wait d)) → ∀ stage, s.isFaulty w' stage = s.isFaulty w stage)) ∧
      ∀ result, call.1 = .ok result → result.summary ≠ [] ∧
        result.textLength = (Text.trimmed text).length ∧
        result.summaryLength = result.summary.length ∧
        result.tokensUsed.input =
          ⌈((r.system.length + (Text.trimmed text).length : ℕ) : ℚ) / 4⌉ ∧
        result.tokensUsed.output = ⌈(result.summary.length : ℚ) / 4⌉ := by
  intro r call
  have hr : Request.of text settings = .ok r := Request.of_eq h hchosen
  cases hbefore : s.isFaulty w "before-run" with
  | true =>
    obtain ⟨hjournal, hcall⟩ := summarize_of_faulty p wait hr hbefore
    refine ⟨[], hjournal, fun _ => ⟨hcall, rfl⟩, ?_, ?_⟩
    · intro hquiet
      cases hquiet
    · intro result hresult
      cases hcall.symm.trans hresult
  | false =>
    obtain ⟨answers, a, w', hjournal, hattempts, hans, hcall⟩ :=
      summarize_of_quiet hr hbefore hw hp hanswers hwait hwaits
    refine ⟨answers, hjournal, ?_, ?_, ?_⟩
    · intro hfaulty
      cases hfaulty
    · refine fun _ => ⟨a, w', hattempts, hans, hcall, ?_, ?_⟩
      · intro hquiet
        obtain ⟨result, hresult⟩ := outcome_of_quiet hans hquiet
        exact ⟨result, hcall.trans hresult⟩
      · intro hpf hwf stage
        have hflags := moves_attempts s hpf hwf p.name r.used r.system r.text.val w
        rw [hattempts] at hflags
        exact Service.isFaulty_of_sameFlags hflags s stage
    · intro result hresult
      obtain ⟨summary, hne, rfl⟩ := outcome_ok hans (hcall.symm.trans hresult)
      exact ⟨hne, rfl, rfl, tokens_eq_ceil _, tokens_eq_ceil _⟩

namespace Enrolled

/-- The first failure opens the breaker. -/
def config : Breaker.Config :=
  ⟨.text "summarizer:model", .bool true, 1, 30000, 1, rfl, rfl, rfl, rfl⟩

def session : Breaker.Session Number Unit := .start (.start 0 ()) config

def service : Service := ⟨.summarizing, session.id, .standard, ⟨[], false⟩, none⟩

def text : String := String.ofList (List.replicate 60 'a')

theorem trimmed_text : Text.trimmed text = text := by decide +kernel

def silent : Provider Number Unit := .silent "model"

def concise : Provider Number Unit :=
  .ofGenerate "model" .null fun _ _ _ => Pure.pure (.ofString " Short. ")

def rest (_ : Binary64) : Run Number Unit Unit := Pure.pure ()

/-- A text is its own extract where the provider is silent, which is asked once before the breaker
opens; where it answers, the answer without its blanks is the summary. -/
theorem summarize_degrades_enrolled :
    (∃ result, (summarize service silent rest text .null session.world).1 = .ok result ∧
      summarizeUnder service service.guard (answering silent) (fun d => Journal.blind (rest d)) text
          .null (Journal.withJournal [] session.world) =
        (.ok result,
          Journal.withJournal [none] (summarize service silent rest text .null session.world).2) ∧
      result.summary = .ofString text ∧ result.textLength = 60) ∧
    ∃ result, (summarize service concise rest text .null session.world).1 = .ok result ∧
      summarizeUnder service service.guard (answering concise) (fun d => Journal.blind (rest d))
          text .null (Journal.withJournal [] session.world) =
        (.ok result, Journal.withJournal [some (.ofString " Short. ")]
          (summarize service concise rest text .null session.world).2) ∧
      result.summary = .ofString "Short." ∧ result.textLength = 60 ∧ result.summaryLength = 6 ∧
      result.tokensUsed.output = 2 := by
  have hlength : (Text.trimmed text).length = 60 := by
    rw [trimmed_text]
    decide +kernel
  have hbounds : minText ≤ (Text.trimmed text).length ∧ (Text.trimmed text).length ≤ maxText := by
    rw [hlength]
    decide
  have hextract : extract (Text.trimmed text) Settings.default.maxLength.val = text := by
    rw [trimmed_text]
    decide +kernel
  have hnull : Schema.nullable Settings.ofJson .null = .ok none := rfl
  have hw : session.world.Delivers := fun f h => by cases h
  constructor
  · obtain ⟨answers, hjournal, -, hcourse, hresult⟩ := summarize_degrades service silent rest
      hbounds hnull hw (fun _ _ _ => Moves.fail _) (fun _ _ _ _ h => by cases h)
      (fun _ => Moves.pure _) (fun _ _ h => by cases h)
    obtain ⟨a, w', -, hans, hcall, hok, -⟩ := hcourse rfl
    obtain ⟨result, hend⟩ := hok rfl
    have hanswers : answers = [none] := by
      rw [← show _ = answers from congrArg (fun r => r.2.outside.1) hjournal]
      decide +kernel
    obtain rfl := hanswers
    rw [hend] at hjournal hcall
    refine ⟨result, hend, hjournal, ?_, ?_⟩
    · -- the last call gave no answer, so the attempts have failed
      rcases a with (f | _) | summary
      · obtain rfl := Except.ok.inj hcall
        exact congrArg CodePoints.ofString hextract
      · exact hans.elim
      · obtain ⟨-, answer, hlast, -⟩ := hans
        cases hlast
    · rw [(hresult result hend).2.1, hlength]
      rfl
  · obtain ⟨answers, hjournal, -, -, hresult⟩ := summarize_degrades service concise rest
      hbounds hnull hw (fun _ _ _ => Moves.pure _) (fun _ _ _ _ h => by cases h)
      (fun _ => Moves.pure _) (fun _ _ h => by cases h)
    have hanswers : answers = [some (.ofString " Short. ")] := by
      rw [← show _ = answers from congrArg (fun r => r.2.outside.1) hjournal]
      decide +kernel
    have hsummary : (summarize service concise rest text .null session.world).1.toOption.map
        (·.summary) = some (.ofString "Short.") := by
      decide +kernel
    obtain ⟨result, hsome, hshort⟩ := Option.map_eq_some_iff.1 hsummary
    have hend := eq_ok_of_toOption hsome
    obtain rfl := hanswers
    rw [hend] at hjournal
    obtain ⟨-, hgiven, hsummarized, -, houtput⟩ := hresult result hend
    rw [hshort] at hsummarized houtput
    have htokens : result.tokensUsed.output = 2 := houtput.trans (tokens_eq_ceil 6).symm
    refine ⟨result, hend, hjournal, hshort, ?_, hsummarized, htokens⟩
    rw [hgiven, hlength]
    rfl

end Enrolled

end Summary

namespace Localization

/-- What is answered once the attempts have ended. -/
def resume (s : Service) (provider : String) (b : Batch) :
    Except Stop (List Result) → Run τ σ (List Result)
  | .ok results => succeeded s provider b results
  | .error (.failed f) => failed s provider b f
  | .error .cancelled => Effect.stop .cancelled

theorem moves_resume (s : Service) (provider : String) (b : Batch) (r : Except Stop (List Result)) :
    Moves Observed (resume s provider b r : Run τ σ (List Result)) := by
  rcases r with (f | _) | results
  · exact moves_failed s provider b f
  · exact Moves.stop _
  · exact moves_succeeded s provider b results

theorem translateBatchUnder_eq {s : Service} {g : Breaker.Guard (World τ σ)} {p : Provider τ σ}
    {wait : Binary64 → Run τ σ Unit} {b : Batch} {w : World τ σ} (hb : b.entries ≠ [])
    (hlimits : b.checkLimits = .ok ()) (hquiet : s.isFaulty w "before-run" = false)
    {a : Except Stop (List Result)} {w' : World τ σ}
    (h : s.attempts g wait (fun f => .ok f.isRetriable) (onRetry s p.name b) (p.translate b) w =
      (a, w')) :
    translateBatchUnder s g p wait b w = resume s p.name b a w' := by
  have hne : b.entries.isEmpty = false := by simpa using hb
  unfold translateBatchUnder
  rw [hne, hlimits, if_neg (by simp)]
  dsimp only
  unfold answer
  rw [bind_of_ok (Service.checkpoint_of_quiet hquiet), ending_bind_apply, h]
  rcases a with (f | _) | results <;> rfl

end Localization

end ResilientCalls
