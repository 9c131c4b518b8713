import ResilientCalls.Proofs.Schema.Checks
import ResilientCalls.Proofs.Service.Fallback
import ResilientCalls.Proofs.Tally

namespace ResilientCalls

open Effect World

variable {τ σ α β : Type}

/-- Is it the failure of a validation? -/
def Failure.IsRejection (f : Failure) : Prop := f.kind = (Failure.validation "" []).kind

/-- A validation failed. -/
def Rejected (r : Except Stop α) : Prop := ∃ f, r = .error (.failed f) ∧ f.IsRejection

/-- Whoever guards the attempts of a call, answers them or waits between them, this comes of it. -/
def Unasked
    (call : Breaker.Guard (World τ σ) → Provider τ σ → (Binary64 → Run τ σ Unit) → Run τ σ α)
    (w : World τ σ) (e : Except Stop α × World τ σ) : Prop :=
  ∀ g p wait, call g p wait w = e

/-- The metrics service may break down, but not as a validation does. -/
def World.Impartial (w : World τ σ) : Prop := ∀ f, w.delivery = .broken f → ¬ f.IsRejection

theorem World.Steady.impartial {w w' : World τ σ} (h : Steady w w') :
    Keeping World.Impartial w w' := by
  intro hw
  unfold Impartial
  rw [h.delivery]
  exact hw

theorem World.Observed.impartial {w w' : World τ σ} (h : Observed w w') :
    Keeping World.Impartial w w' := h.steady.impartial

theorem not_rejected_ok (a : α) : ¬ Rejected (.ok a) := by
  rintro ⟨f, hf, -⟩
  cases hf

theorem not_rejected_cancelled : ¬ Rejected (.error .cancelled : Except Stop α) := by
  rintro ⟨f, hf, -⟩
  cases hf

theorem rejected_failed_iff {f : Failure} :
    Rejected (.error (.failed f) : Except Stop α) ↔ f.IsRejection := by
  constructor
  · rintro ⟨g, hg, hr⟩
    cases hg
    exact hr
  · exact fun h => ⟨f, rfl, h⟩

/-- While the metrics service is impartial it stays so, and nothing is rejected. -/
def Accepts (x : Run τ σ α) : Prop :=
  ∀ w, w.Impartial → (x w).2.Impartial ∧ ¬ Rejected (x w).1

namespace Accepts

theorem pure (a : α) : Accepts (Pure.pure a : Run τ σ α) := fun _ hw => ⟨hw, not_rejected_ok a⟩

theorem cancelled : Accepts (Effect.stop .cancelled : Run τ σ α) :=
  fun _ hw => ⟨hw, not_rejected_cancelled⟩

theorem fail {f : Failure} (h : ¬ f.IsRejection) : Accepts (Effect.fail f : Run τ σ α) :=
  fun _ hw => ⟨hw, fun hr => h (rejected_failed_iff.1 hr)⟩

theorem of_observed {x : Run τ σ α} (hm : Moves Observed x)
    (h : ∀ w, w.Impartial → ¬ Rejected (x w).1) : Accepts x :=
  fun w hw => ⟨(hm w).impartial hw, h w hw⟩

theorem bind {x : Run τ σ α} {f : α → Run τ σ β} (hx : Accepts x) (hf : ∀ a, Accepts (f a)) :
    Accepts (x >>= f) := by
  intro w hw
  obtain ⟨hw', hr⟩ := hx w hw
  cases h : x w with
  | mk r w' =>
    rw [h] at hw' hr
    rcases r with (e | _) | a
    · rw [bind_of_error h]
      exact ⟨hw', fun hb => hr (rejected_failed_iff.2 (rejected_failed_iff.1 hb))⟩
    · rw [bind_of_error h]
      exact ⟨hw', not_rejected_cancelled⟩
    · rw [bind_of_ok h]
      exact hf a w' hw'

theorem ending_bind {x : Run τ σ α} {f : Except Stop α → Run τ σ β}
    (hx : Moves (Keeping World.Impartial) x) (hf : ∀ r, Accepts (f r)) :
    Accepts (Effect.ending x >>= f) := by
  intro w hw
  rw [ending_bind_apply]
  exact hf _ _ (hx w hw)

end Accepts

theorem accepts_logged (r : LogRecord) : Accepts (Run.logged r : Run τ σ Unit) :=
  .of_observed (moves_logged r) fun _ _ => not_rejected_ok ()

namespace Sink

theorem orShared_ok (s : Option Sink) (w : World τ σ) :
    ∃ k w', orShared s w = (.ok k, w') ∧ w'.delivery = w.delivery := by
  cases s with
  | some k => exact ⟨k, w, rfl, rfl⟩
  | none =>
    cases hsh : w.sharedSink with
    | some k => exact ⟨k, w, shared_of_some hsh, rfl⟩
    | none =>
      obtain ⟨b, hb⟩ := ofName_eq_make w
      exact ⟨_, _, shared_of_make hsh (hb w rfl), rfl⟩

/-- Only a breakdown of the metrics service keeps a metric from being recorded. -/
theorem broken_of_record {k : Sink} {name : String} {labels : List (String × Json)}
    {w : World τ σ} {e : Stop}
    (h : (k.record ⟨.text name, .int 1, .object labels⟩ w).1 = .error e) :
    ∃ f, e = .failed f ∧ w.delivery = .broken f := by
  cases hk : k.backend with
  | memory =>
    simp only [record, hk, Metric.kept, Metric.givenLabels_object, Json.dictionary] at h
    cases h
  | log =>
    simp only [record, hk] at h
    cases h
  | cloudWatch n =>
    simp only [record, hk, Datum.ofMetric, Metric.givenLabels_object] at h
    change (publish n _ w).1 = _ at h
    rw [publish, modify_bind_apply, get_bind_apply] at h
    cases hd : w.delivery with
    | accepted =>
      simp only [hd] at h
      cases h
    | refused reason =>
      simp only [hd] at h
      cases h
    | broken f =>
      simp only [hd] at h
      exact ⟨f, (Except.error.inj h).symm, rfl⟩

end Sink

theorem accepts_count (s : Option Sink) (name : String) (labels : List (String × Json)) :
    Accepts (Sink.count s name labels : Run τ σ Unit) := by
  refine .of_observed (Sink.moves_count s name labels) fun w hw => ?_
  rintro ⟨f, hf, hr⟩
  obtain ⟨k, w₁, hk, hdelivery⟩ := Sink.orShared_ok s w
  rw [Sink.count, bind_of_ok hk] at hf
  obtain ⟨g, hg, hbroken⟩ := Sink.broken_of_record hf
  cases hg
  exact hw f (hdelivery ▸ hbroken) hr

theorem Service.fault_not_rejection (s : Service) (stage : String) :
    ¬ (s.fault stage).IsRejection := by
  simp [Failure.IsRejection, Service.fault, Failure.kind]

theorem Service.accepts_checkpoint (s : Service) (stage : String) :
    Accepts (s.checkpoint stage : Run τ σ Unit) := by
  refine .of_observed (moves_inject _ _) fun w _ => ?_
  cases hfault : s.isFaulty w stage with
  | true =>
    rw [Service.checkpoint_faulty_apply hfault, rejected_failed_iff]
    exact s.fault_not_rejection stage
  | false =>
    rw [Service.checkpoint_of_quiet hfault]
    exact not_rejected_ok ()

namespace Summary

/-- The text is too short or too long once it is trimmed, or the settings are not valid ones. -/
def Unfit (text : String) (settings : Json) : Prop :=
  ¬ (50 ≤ (Text.trimmed text).length ∧ (Text.trimmed text).length ≤ 50000) ∨
    ∃ issues, Schema.nullable Settings.ofJson settings = .error issues

theorem Request.of_eq_ok_iff {text : String} {settings : Json} {r : Request} :
    Request.of text settings = .ok r ↔
      r.text.val = Text.trimmed text ∧
        Schema.nullable Settings.ofJson settings = .ok r.settings := by
  have hof : Request.of text settings =
      (Schema.both
        (Schema.within textName.wire
          (Schema.textWithin minText maxText (.text (Text.trimmed text))))
        (Schema.within settingsName.wire (Schema.nullable Settings.ofJson settings))).map
      fun p => ⟨p.1, p.2⟩ := rfl
  rw [hof, Schema.map_eq_ok_iff]
  simp only [Schema.both_eq_ok_iff, Schema.within_eq_ok_iff, Schema.textWithin_eq_ok_iff]
  constructor
  · rintro ⟨p, ⟨htext, hsettings⟩, rfl⟩
    exact ⟨htext, hsettings⟩
  · rintro ⟨htext, hsettings⟩
    exact ⟨(r.text, r.settings), ⟨htext, hsettings⟩, rfl⟩

theorem Request.exists_of_eq_ok_iff {text : String} {settings : Json} :
    (∃ r, Request.of text settings = .ok r) ↔ ¬ Unfit text settings := by
  constructor
  · rintro ⟨r, hr⟩ (hlength | ⟨issues, hissues⟩)
    · rw [Request.of_eq_ok_iff] at hr
      rw [← hr.1] at hlength
      exact hlength r.text.property
    · rw [Request.of_eq_ok_iff, hissues] at hr
      cases hr.2
  · intro hfit
    have hlength : minText ≤ (Text.trimmed text).length ∧ (Text.trimmed text).length ≤ maxText := by
      by_contra h
      exact hfit (Or.inl h)
    cases hsettings : Schema.nullable Settings.ofJson settings with
    | error issues => exact absurd (Or.inr ⟨issues, hsettings⟩) hfit
    | ok chosen => exact ⟨_, Request.of_eq hlength hsettings⟩

theorem unasked_of_unfit {text : String} {settings : Json} (h : Unfit text settings) (s : Service)
    (w : World τ σ) : ∃ f, f.IsRejection ∧
      Unasked (fun g p wait => summarizeUnder s g p wait text settings) w
        (.error (.failed f), w) := by
  cases hr : Request.of text settings with
  | ok r => exact absurd h (Request.exists_of_eq_ok_iff.1 ⟨r, hr⟩)
  | error issues =>
    refine ⟨Schema.rejected issues, rfl, fun g p wait => ?_⟩
    show summarizeUnder s g p wait text settings w = _
    rw [summarizeUnder, hr]
    rfl

theorem unasked_of_faulty {text : String} {settings : Json} {s : Service} {w : World τ σ}
    (h : ¬ Unfit text settings) (hfaulty : s.isFaulty w "before-run" = true) :
    Unasked (fun g p wait => summarizeUnder s g p wait text settings) w
      (.error (.failed (s.fault "before-run")), w.addLog (s.faultRecord "before-run")) := by
  intro g p wait
  obtain ⟨r, hr⟩ := Request.exists_of_eq_ok_iff.2 h
  show summarizeUnder s g p wait text settings w = _
  rw [summarizeUnder_eq hr, bind_of_error (Service.checkpoint_faulty_apply hfaulty)]

theorem accepts_resume (s : Service) (provider : String) (r : Request)
    (a : Except Stop CodePoints) : Accepts (resume s provider r a : Run τ σ Result) := by
  rcases a with (f | _) | summary
  · refine .bind (accepts_logged _) fun _ => .bind (accepts_count _ _ _) fun _ => ?_
    exact .bind (s.accepts_checkpoint _) fun _ => .pure _
  · exact .cancelled
  · exact .bind (accepts_count _ _ _) fun _ => .bind (accepts_logged _) fun _ => .pure _

/-- A text that is fit is not rejected, whatever the provider does. -/
theorem accepts_summarize [Clock τ] {p : Provider τ σ} {wait : Binary64 → Run τ σ Unit}
    (hp : ∀ system user json, Moves (Keeping World.Impartial) (p.generate system user json))
    (hwait : ∀ d, Moves (Keeping World.Impartial) (wait d)) (s : Service) {text : String}
    {settings : Json} (h : ¬ Unfit text settings) : Accepts (summarize s p wait text settings) := by
  obtain ⟨r, hr⟩ := Request.exists_of_eq_ok_iff.2 h
  rw [summarize, summarizeUnder_eq hr]
  refine .bind (s.accepts_checkpoint _) fun _ => .ending_bind ?_ fun a => accepts_resume s _ r a
  refine Moves.bind ?_ fun _ => Moves.bind ?_ fun _ => Moves.pure _
  · exact Service.moves_attempts_guard (fun _ _ h => h.impartial) hwait s _ (moves_onRetry s _ _)
      (moves_ask hp _ _)
  · exact (moves_inject _ _).mono fun _ _ h => h.impartial

end Summary

namespace Localization

/-- The batch has entries and breaks a limit. -/
def Batch.Unfit (b : Batch) : Prop := b.entries ≠ [] ∧ ∃ f, b.checkLimits = .error f

theorem Batch.isRejection_of_checkLimits {b : Batch} {f : Failure} (h : b.checkLimits = .error f) :
    f.IsRejection := by
  unfold checkLimits at h
  split at h
  · cases h
  · rw [← Except.error.inj h]
    rfl

theorem translateBatchUnder_of_empty {b : Batch} (h : b.entries = []) (s : Service)
    (g : Breaker.Guard (World τ σ)) (p : Provider τ σ) (wait : Binary64 → Run τ σ Unit) :
    translateBatchUnder s g p wait b = Pure.pure [] := by
  rw [translateBatchUnder, h]
  rfl

theorem unasked_of_unfit {b : Batch} (h : b.Unfit) (s : Service) (w : World τ σ) :
    ∃ f, f.IsRejection ∧
      Unasked (fun g p wait => translateBatchUnder s g p wait b) w (.error (.failed f), w) := by
  obtain ⟨hb, f, hf⟩ := h
  refine ⟨f, Batch.isRejection_of_checkLimits hf, fun g p wait => ?_⟩
  show translateBatchUnder s g p wait b w = _
  rw [translateBatchUnder, if_neg (by simpa using hb), hf]
  rfl

theorem translateBatchUnder_of_fit {b : Batch} (hb : b.entries ≠ []) (h : ¬ b.Unfit)
    (s : Service) (g : Breaker.Guard (World τ σ)) (p : Provider τ σ)
    (wait : Binary64 → Run τ σ Unit) :
    translateBatchUnder s g p wait b = answer s g p wait b := by
  rw [translateBatchUnder, if_neg (by simpa using hb)]
  cases hlimits : b.checkLimits with
  | ok u => rfl
  | error f => exact absurd ⟨hb, f, hlimits⟩ h

theorem unasked_of_faulty {b : Batch} {s : Service} {w : World τ σ} (hb : b.entries ≠ [])
    (h : ¬ b.Unfit) (hfaulty : s.isFaulty w "before-run" = true) :
    Unasked (fun g p wait => translateBatchUnder s g p wait b) w
      (.error (.failed (s.fault "before-run")), w.addLog (s.faultRecord "before-run")) := by
  intro g p wait
  show translateBatchUnder s g p wait b w = _
  rw [translateBatchUnder_of_fit hb h, answer,
    bind_of_error (Service.checkpoint_faulty_apply hfaulty)]

theorem accepts_resume (s : Service) (provider : String) (b : Batch)
    (a : Except Stop (List Result)) :
    Accepts (resume s provider b a : Run τ σ (List Result)) := by
  rcases a with (f | _) | results
  · refine .bind (accepts_count _ _ _) fun _ => .bind (accepts_logged _) fun _ => .fail ?_
    simp [Failure.IsRejection, Failure.kind]
  · exact .cancelled
  · refine .bind (s.accepts_checkpoint _) fun _ => .bind (accepts_count _ _ _) fun _ => ?_
    exact .bind (accepts_logged _) fun _ => .pure _

/-- A batch that is fit is not rejected, whatever the provider does. -/
theorem accepts_translateBatch [Clock τ] {p : Provider τ σ} {wait : Binary64 → Run τ σ Unit}
    (hp : ∀ b, Moves (Keeping World.Impartial) (p.translate b))
    (hwait : ∀ d, Moves (Keeping World.Impartial) (wait d)) (s : Service) {b : Batch}
    (h : ¬ b.Unfit) : Accepts (translateBatch s p wait b) := by
  by_cases hb : b.entries = []
  · rw [translateBatch, translateBatchUnder_of_empty hb]
    exact .pure []
  · rw [translateBatch, translateBatchUnder_of_fit hb h]
    refine .bind (s.accepts_checkpoint _) fun _ => .ending_bind ?_ fun a => ?_
    · exact Service.moves_attempts_guard (fun _ _ h => h.impartial) hwait s _ (moves_onRetry s _ b)
        (hp b)
    · rcases a with (f | _) | results
      · exact accepts_resume s p.name b (.error (.failed f))
      · exact accepts_resume s p.name b (.error .cancelled)
      · exact accepts_resume s p.name b (.ok results)

/-- Translates a batch that has yet to be checked, with the attempts made under a guard. -/
def translateUnder (s : Service) (g : Breaker.Guard (World τ σ)) (p : Provider τ σ)
    (wait : Binary64 → Run τ σ Unit) (request : Json) : Run τ σ (List Result) :=
  match Batch.ofJson request with
  | .error issues => Effect.fail (Schema.rejected issues)
  | .ok b => translateBatchUnder s g p wait b

theorem translate_eq_under [Clock τ] (s : Service) (p : Provider τ σ)
    (wait : Binary64 → Run τ σ Unit) (request : Json) :
    translate s p wait request = translateUnder s s.guard p wait request := rfl

theorem translateUnder_of_ok {request : Json} {b : Batch} (h : Batch.ofJson request = .ok b)
    (s : Service) (g : Breaker.Guard (World τ σ)) (p : Provider τ σ)
    (wait : Binary64 → Run τ σ Unit) :
    translateUnder s g p wait request = translateBatchUnder s g p wait b := by
  rw [translateUnder, h]

/-- The request is not that of a batch, or it is that of an unfit one. -/
def Unfit (request : Json) : Prop :=
  (∃ issues, Batch.ofJson request = .error issues) ∨
    ∃ b, Batch.ofJson request = .ok b ∧ b.Unfit

theorem unasked_of_unfit_request {request : Json} (h : Unfit request) (s : Service)
    (w : World τ σ) : ∃ f, f.IsRejection ∧
      Unasked (fun g p wait => translateUnder s g p wait request) w (.error (.failed f), w) := by
  obtain ⟨issues, hissues⟩ | ⟨b, hb, hunfit⟩ := h
  · refine ⟨Schema.rejected issues, rfl, fun g p wait => ?_⟩
    show translateUnder s g p wait request w = _
    rw [translateUnder, hissues]
    rfl
  · obtain ⟨f, hf, hasked⟩ := unasked_of_unfit hunfit s w
    refine ⟨f, hf, fun g p wait => ?_⟩
    show translateUnder s g p wait request w = _
    rw [translateUnder_of_ok hb]
    exact hasked g p wait

theorem accepts_translate [Clock τ] {p : Provider τ σ} {wait : Binary64 → Run τ σ Unit}
    (hp : ∀ b, Moves (Keeping World.Impartial) (p.translate b))
    (hwait : ∀ d, Moves (Keeping World.Impartial) (wait d)) (s : Service) {request : Json}
    (h : ¬ Unfit request) : Accepts (translate s p wait request) := by
  cases hb : Batch.ofJson request with
  | error issues => exact absurd (Or.inl ⟨issues, hb⟩) h
  | ok b =>
    rw [translate_eq_under, translateUnder_of_ok hb]
    exact accepts_translateBatch hp hwait s fun hunfit => h (Or.inr ⟨b, hb, hunfit⟩)

end Localization

/-- What is said of a call under any guard is said of it under that of its breaker. -/
theorem Unasked.rejected {call : Breaker.Guard (World τ σ) → Provider τ σ →
      (Binary64 → Run τ σ Unit) → Run τ σ α} {w w' : World τ σ} {f : Failure}
    (h : Unasked call w (.error (.failed f), w')) (hf : f.IsRejection)
    (g : Breaker.Guard (World τ σ)) (p : Provider τ σ) (wait : Binary64 → Run τ σ Unit) :
    Rejected (call g p wait w).1 := by
  rw [h g p wait]
  exact rejected_failed_iff.2 hf

open ResilientCalls.Localization in
/-- Just the unfit requests are rejected. Of a request that is rejected, and of one that ends at its
first checkpoint, nobody else hears: whoever guards the attempts, answers them or waits between
them, the call ends in the same way, and in the same world but for the record of the fault. So does
the call for a batch without entries, whatever the faults. The metrics service must not break down
as a validation does, nor be made to. -/
theorem rejected_without_trace [Clock τ] (s : Service) (w : World τ σ) :
    (∀ text settings,
      (Summary.Unfit text settings → ∃ f, f.IsRejection ∧
        Unasked (fun g p wait => Summary.summarizeUnder s g p wait text settings) w
          (.error (.failed f), w)) ∧
      (¬ Summary.Unfit text settings → s.isFaulty w "before-run" = true →
        Unasked (fun g p wait => Summary.summarizeUnder s g p wait text settings) w
          (.error (.failed (s.fault "before-run")), w.addLog (s.faultRecord "before-run")))) ∧
    (∀ b : Batch,
      (b.entries = [] → Unasked (fun g p wait => translateBatchUnder s g p wait b) w (.ok [], w)) ∧
      (b.Unfit → ∃ f, f.IsRejection ∧
        Unasked (fun g p wait => translateBatchUnder s g p wait b) w (.error (.failed f), w)) ∧
      (b.entries ≠ [] → ¬ b.Unfit → s.isFaulty w "before-run" = true →
        Unasked (fun g p wait => translateBatchUnder s g p wait b) w
          (.error (.failed (s.fault "before-run")), w.addLog (s.faultRecord "before-run")))) ∧
    (∀ request,
      (Unfit request → ∃ f, f.IsRejection ∧
        Unasked (fun g p wait => translateUnder s g p wait request) w (.error (.failed f), w)) ∧
      ∀ b, Batch.ofJson request = .ok b →
        ∀ (g : Breaker.Guard (World τ σ)) (p : Provider τ σ) (wait : Binary64 → Run τ σ Unit),
          translateUnder s g p wait request = translateBatchUnder s g p wait b) ∧
    ∀ (p : Provider τ σ) (wait : Binary64 → Run τ σ Unit), w.Impartial →
      (∀ system user json, Moves (Keeping World.Impartial) (p.generate system user json)) →
      (∀ b, Moves (Keeping World.Impartial) (p.translate b)) →
      (∀ d, Moves (Keeping World.Impartial) (wait d)) →
      (∀ text settings, Rejected (Summary.summarize s p wait text settings w).1 ↔
        Summary.Unfit text settings) ∧
      (∀ b, Rejected (translateBatch s p wait b w).1 ↔ b.Unfit) ∧
      ∀ request, Rejected (translate s p wait request w).1 ↔ Unfit request := by
  refine ⟨fun text settings => ⟨fun h => Summary.unasked_of_unfit h s w, Summary.unasked_of_faulty⟩,
    fun b => ⟨fun h g p wait => ?_, fun h => unasked_of_unfit h s w, unasked_of_faulty⟩,
    fun request => ⟨fun h => unasked_of_unfit_request h s w,
      fun b hb g p wait => translateUnder_of_ok hb s g p wait⟩,
    fun p wait hw hgenerate htranslate hwait => ⟨fun text settings => ?_, fun b => ?_,
      fun request => ?_⟩⟩
  · show translateBatchUnder s g p wait b w = _
    rw [translateBatchUnder_of_empty h]
    rfl
  all_goals constructor
  · intro hr
    by_contra hfit
    exact (Summary.accepts_summarize hgenerate hwait s hfit w hw).2 hr
  · intro hunfit
    obtain ⟨f, hf, hasked⟩ := Summary.unasked_of_unfit hunfit s w
    exact hasked.rejected hf s.guard p wait
  · intro hr
    by_contra hfit
    exact (accepts_translateBatch htranslate hwait s hfit w hw).2 hr
  · intro hunfit
    obtain ⟨f, hf, hasked⟩ := unasked_of_unfit hunfit s w
    exact hasked.rejected hf s.guard p wait
  · intro hr
    by_contra hfit
    exact (accepts_translate htranslate hwait s hfit w hw).2 hr
  · intro hunfit
    obtain ⟨f, hf, hasked⟩ := unasked_of_unfit_request hunfit s w
    exact hasked.rejected hf s.guard p wait

open ResilientCalls.Localization in
/-- A short text is rejected, and so is a list in the place of a batch. A batch without entries is
answered where one with an entry ends at the first checkpoint. -/
theorem rejected_without_trace_faulty :
    let s : Service := ⟨.translating, 0, .translating, ⟨[Fault.wildcard], false⟩, none⟩
    let w : World Number Unit := .start 0 ()
    let b : Batch := ⟨[], ⟨"en", by decide⟩, ⟨"pl", by decide⟩, none, .plain⟩
    let greeting : Batch := { b with entries := [⟨⟨"greeting", by decide⟩, "Hello", none⟩] }
    s.isFaulty w "before-run" = true ∧
    Rejected (Summary.summarize s (.silent "model") (fun _ => Pure.pure ()) "too short" .null w).1 ∧
    Rejected (translate s (.silent "model") (fun _ => Pure.pure ()) (.list []) w).1 ∧
    translateBatch s (.silent "model") (fun _ => Pure.pure ()) b w = (.ok [], w) ∧
    translateBatch s (.silent "model") (fun _ => Pure.pure ()) greeting w =
      (.error (.failed (s.fault "before-run")), w.addLog (s.faultRecord "before-run")) := by
  intro s w b greeting
  have hfaulty : s.isFaulty w "before-run" = true := by decide
  have hfit : ¬ greeting.Unfit := by
    rintro ⟨-, f, hf⟩
    cases hf
  obtain ⟨-, hbatch, -, hrejected⟩ := rejected_without_trace s w
  obtain ⟨hsummarize, -, htranslate⟩ := hrejected (.silent "model") (fun _ => Pure.pure ())
    (fun f h => by cases h) (fun _ _ _ => Moves.fail _) (fun _ => Moves.fail _)
    (fun _ => Moves.pure _)
  refine ⟨hfaulty, (hsummarize _ _).2 (Or.inl (by decide)), (htranslate _).2 (Or.inl ⟨_, rfl⟩),
    (hbatch b).1 rfl _ _ _, ?_⟩
  exact (hbatch greeting).2.2 (by simp [greeting]) hfit hfaulty _ _ _

end ResilientCalls
