import ResilientCalls.Proofs.Number
import ResilientCalls.Proofs.Service.Journal
import ResilientCalls.Proofs.Sightings

namespace ResilientCalls

open Effect World

variable {τ σ α : Type}

namespace Provider

/-- A clock can always be read, and reading it changes nothing. -/
def Transport.Ticks (t : Transport τ σ) : Prop := ∀ w, ∃ x, t.stopwatch w = (.ok x, w)

/-- A transport that notes what it sends. -/
def Transport.noting (t : Transport τ σ) : Transport τ (List Http.Request × σ) where
  send r := do
    Journal.note r
    Journal.blind (t.send r)
  stopwatch := Journal.blind t.stopwatch

namespace Adapter

/-- The arguments of a call make a request: its address is valid and says where it leads, the body
and the headers can be written, and the time limit is a number. -/
structure Posts (a : Adapter) (url body headers params : Json) (r : Http.Request) : Prop where
  made : ∃ hs timeout, Http.jsonHeaders headers = .ok hs ∧
    timeoutSeconds a.timeoutMs = .ok timeout ∧
    Http.Request.post url body hs params timeout = .ok r
  absolute : r.url.isRelative = false
  plain : r.url.authority.any Http.isMisleading = false

/-- What the outcomes of a request make a call end in. -/
inductive Answers [Json.Depth] (a : Adapter) :
    Except Stop Http.Outcome → Except Stop Document → Prop where
  | timedOut : Answers a (.ok .timedOut) (.error (.failed (.timeout a.name a.timeoutMs.plain)))
  | broken (reason : String) :
    Answers a (.ok (.broken reason)) (.error (.failed (.connection a.name reason)))
  | refused (status : Int) (content : List Nat) (h : ¬ (200 ≤ status ∧ status < 300)) :
    Answers a (.ok (.response status content))
      (.error (.failed (.badStatus a.name status (Http.reason status))))
  | undecoded (status : Int) (content : List Nat) (h : 200 ≤ status ∧ status < 300)
      (fault : Text.DecodingFault) (hd : Text.decodeDetected content = .error fault) :
    Answers a (.ok (.response status content)) (.error (.failed (.emptyResponse a.name
      (a.name ++ " API returned invalid JSON: " ++ fault.message))))
  | notJson (status : Int) (content : List Nat) (h : 200 ≤ status ∧ status < 300)
      (ps : CodePoints) (hd : Text.decodeDetected content = .ok ps) (r : Json.Refusal)
      (hr : Json.read ps = .error r) (hflat : ∀ c, r ≠ .tooDeep c) :
    Answers a (.ok (.response status content)) (.error (.failed (.emptyResponse a.name
      (a.name ++ " API returned invalid JSON: " ++ r.message ps))))
  | tooDeep (status : Int) (content : List Nat) (h : 200 ≤ status ∧ status < 300)
      (ps : CodePoints) (hd : Text.decodeDetected content = .ok ps) (c : Json.Container)
      (hr : Json.read ps = .error (.tooDeep c)) :
    Answers a (.ok (.response status content)) (.error (.failed (.foreign (.tooDeep c))))
  | notObject (status : Int) (content : List Nat) (h : 200 ≤ status ∧ status < 300)
      (ps : CodePoints) (hd : Text.decodeDetected content = .ok ps) (j : Document)
      (hr : Json.read ps = .ok j) (hj : ∀ fields, j ≠ .object fields) :
    Answers a (.ok (.response status content)) (.error (.failed (.emptyResponse a.name
      (a.name ++ " API returned a non-object body"))))
  | returned (status : Int) (content : List Nat) (h : 200 ≤ status ∧ status < 300)
      (ps : CodePoints) (hd : Text.decodeDetected content = .ok ps)
      (fields : List (CodePoints × Document)) (hr : Json.read ps = .ok (.object fields)) :
    Answers a (.ok (.response status content)) (.ok (.object fields))
  | stopped (e : Stop) : Answers a (.error e) (.error e)

end Adapter

end Provider

/-- May another attempt succeed after such an outcome? After a response with no usable body it may,
as it may after too many requests and after an error of the server. -/
def Http.Outcome.isRetriable : Http.Outcome → Bool
  | .timedOut | .broken _ => true
  | .response status _ => isSuccess status || Failure.retriableStatus status

/-- Both questions whether to try again are answered as the failure is marked. -/
structure Failure.Tells (f : Failure) (again : Bool) : Prop where
  transient : f.isTransient = .ok again
  retriable : f.isRetriable = again
  mark : f.retriableMark = some (.bool again)

namespace Failure

theorem tells_timeout (name limitMs : String) : (timeout name limitMs).Tells true :=
  ⟨rfl, rfl, rfl⟩

theorem tells_connection (name reason : String) : (connection name reason).Tells true :=
  ⟨rfl, rfl, rfl⟩

theorem tells_emptyResponse (name text : String) : (emptyResponse name text).Tells true :=
  ⟨rfl, rfl, rfl⟩

theorem retriableAfter_int (status : Int) :
    retriableAfter (.int status) = .ok (retriableStatus status) := by
  have he : (Number.whole status).equals 429 = decide (status = 429) :=
    Number.equals_whole status 429
  have hr : (Number.whole status).reaches 500 = decide (500 ≤ status) :=
    Number.reaches_whole status 500
  simp only [retriableAfter, Json.number?, he, hr, retriableStatus]

theorem tells_badStatus (name : String) (status : Int) (reason : String) :
    (badStatus name status reason).Tells (retriableStatus status) := by
  refine ⟨?_, ?_, rfl⟩
  · simp [isTransient, isRefusal, Failure.status, Json.isNull, retriableAfter_int, Except.mapError]
  · simp [isRetriable, isRefusal, claimsRetriable, retriableMark, Json.holds]

end Failure

namespace Provider.Adapter

variable {a : Adapter} {t : Transport τ σ} {sink : Option Sink} {url body headers params : Json}
  {r : Http.Request} {e : Except Stop Http.Outcome} {result : Except Stop Document}

/-- Of a body that is nested too deep, as of nothing else, no failure of the provider is made. -/
theorem Answers.tells [Json.Depth] {o : Http.Outcome} {f : Failure}
    (h : a.Answers (.ok o) (.error (.failed f))) :
    (∃ c, f = .foreign (.tooDeep c)) ∨ f.Tells o.isRetriable := by
  have hunusable : ∀ {status : Int} (content : List Nat) (text : String),
      200 ≤ status ∧ status < 300 →
        (Failure.emptyResponse a.name text).Tells
          (Http.Outcome.isRetriable (.response status content)) := by
    intro status content text hs
    have hsuccess : Http.Outcome.isRetriable (.response status content) = true := by
      simp [Http.Outcome.isRetriable, Http.isSuccess, hs]
    rw [hsuccess]
    exact Failure.tells_emptyResponse _ _
  cases h with
  | timedOut => exact Or.inr (Failure.tells_timeout _ _)
  | broken reason => exact Or.inr (Failure.tells_connection _ _)
  | refused status content hs =>
    have hsame : Http.Outcome.isRetriable (.response status content) =
        Failure.retriableStatus status := by
      simp [Http.Outcome.isRetriable, Http.isSuccess, hs]
    rw [hsame]
    exact Or.inr (Failure.tells_badStatus _ _ _)
  | undecoded status content hs => exact Or.inr (hunusable content _ hs)
  | notJson status content hs => exact Or.inr (hunusable content _ hs)
  | notObject status content hs => exact Or.inr (hunusable content _ hs)
  | tooDeep status content hs ps hd c hr => exact Or.inl ⟨c, rfl⟩

/-- Worlds that differ in records of the log at most, of which none shows a request. -/
structure Unmeasured (w w' : World τ σ) : Prop where
  observed : Observed w w'
  sharedSink : w'.sharedSink = w.sharedSink
  ledgers : w'.ledgers = w.ledgers
  sightings : ∀ k, w'.sightings .request k = w.sightings .request k

theorem unmeasured_logged (a : Adapter) (level : Level) (event : String)
    (he : event ≠ "request_metric") (fields : List (String × Json)) (w : World τ σ) :
    Unmeasured w (w.addLog (a.logRecord level event fields)) :=
  ⟨observed_addLog _ _, rfl, rfl, fun _ => sightings_addLog he⟩

theorem unmeasured_refl (w : World τ σ) : Unmeasured w w :=
  ⟨refl_of Observed w, rfl, rfl, fun _ => rfl⟩

/-- What a response with a status of success means depends on how its content reads. -/
theorem interpret_content [Json.Depth] (status : Int) (content : List Nat)
    (h : 200 ≤ status ∧ status < 300) (w : World τ σ) :
    ∃ result w', a.interpret (.response status content) w = (result, w') ∧
      a.Answers (.ok (.response status content)) result ∧ Unmeasured w w' := by
  have hs : Http.isSuccess status = true := by simp [Http.isSuccess, h]
  simp only [interpret, hs, Bool.not_true, Bool.false_eq_true, if_false]
  unfold contentOf
  cases hd : Text.decodeDetected content with
  | error fault => exact ⟨_, w, rfl, .undecoded status content h fault hd, unmeasured_refl w⟩
  | ok ps =>
    dsimp only
    cases hr : Json.read ps with
    | ok j =>
      cases j with
      | object fields =>
        refine ⟨_, _, rfl, .returned status content h ps hd fields hr, ?_⟩
        exact unmeasured_logged a .debug _ (by simp) _ w
      | _ => exact ⟨_, w, rfl, .notObject status content h ps hd _ hr (by simp), unmeasured_refl w⟩
    | error refusal =>
      cases refusal with
      | tooDeep c => exact ⟨_, w, rfl, .tooDeep status content h ps hd c hr, unmeasured_refl w⟩
      | _ => exact ⟨_, w, rfl, .notJson status content h ps hd _ hr (by simp), unmeasured_refl w⟩

/-- Whatever comes of a request, what the call ends in is as the table says. -/
theorem interpret_answers [Json.Depth] (e : Except Stop Http.Outcome) (w : World τ σ) :
    ∃ result w', (Effect.conclude e >>= a.interpret) w = (result, w') ∧ a.Answers e result ∧
      Unmeasured w w' := by
  rcases e with e | (⟨status, content⟩ | _ | reason)
  · exact ⟨_, w, rfl, .stopped e, unmeasured_refl w⟩
  · by_cases h : 200 ≤ status ∧ status < 300
    · exact interpret_content status content h w
    · have hs : Http.isSuccess status = false := by simpa [Http.isSuccess] using h
      have hfailed := unmeasured_logged a .warning "Provider request failed" (by simp)
        [("status", .int status),
          ("body", .text (String.ofList ((Text.decodeLenient [] 0 content).take 200)))] w
      refine ⟨_, _, ?_, .refused status content h, hfailed⟩
      simp only [conclude_ok, Effect.pure_bind, interpret, hs]
      rfl
  · exact ⟨_, w, rfl, .timedOut, unmeasured_refl w⟩
  · exact ⟨_, w, rfl, .broken reason, unmeasured_refl w⟩

/-- The measurement of a request: the status is the one that was received, or zero. -/
def measurement (a : Adapter) (e : Except Stop Http.Outcome) (durationMs : Binary64) :
    RequestMetric where
  route := a.model
  method := .text "POST"
  status := .int (statusOf e)
  durationMs
  service := .text a.name

/-- Takes the measurement of a request that was begun at the given time. -/
def measure (a : Adapter) (t : Transport τ σ) (sink : Option Sink) (started : Binary64)
    (e : Except Stop Http.Outcome) : Run τ σ Unit := do
  let ended ← t.stopwatch
  (← Sink.orShared sink).recordRequest (a.measurement e ((ended - started) * 1000))

/-- A call that makes a request sends it, and then only measures and reads what came of it. -/
theorem post_apply [Json.Depth] (h : a.Posts url body headers params r) {w : World τ σ}
    {started : Binary64} (ht : t.stopwatch w = (.ok started, w)) :
    a.post t sink url body headers params w =
      Effect.thereafter (Effect.conclude (t.send r w).1 >>= a.interpret)
        (a.measure t sink started (t.send r w).1) (t.send r w).2 := by
  obtain ⟨⟨hs, timeout, hheaders, htimeout, hpost⟩, habsolute, hplain⟩ := h
  -- only a response that leads elsewhere is refused, and the address says where it leads
  have hreceive : ∀ o, r.receive o = .ok o := by
    intro o
    cases o with
    | response status content => simp [Http.Request.receive, habsolute, hplain]
    | timedOut => rfl
    | broken reason => rfl
  have hsent : (do
      let request ← Effect.ofForeign (Http.Request.post url body hs params timeout)
      let outcome ← t.send request
      Effect.ofForeign (request.receive outcome) : Run τ σ Http.Outcome) w = t.send r w := by
    rw [hpost]
    show (t.send r >>= fun o => Effect.ofForeign (r.receive o)) w = _
    cases hsend : t.send r w with
    | mk e w' =>
      cases e with
      | ok o =>
        rw [bind_of_ok hsend, hreceive]
        rfl
      | error e => rw [bind_of_error hsend]
  unfold post
  rw [hheaders, htimeout]
  show (t.stopwatch >>= _) w = _
  rw [bind_of_ok ht, ending_bind_apply, hsent]
  rfl

/-- A measurement is shown once, at the sink that is used. -/
theorem measure_adds (a : Adapter) (ht : t.Ticks) (started : Binary64)
    (e : Except Stop Http.Outcome) {w : World τ σ} (hw : w.Delivers) (hs : w.HasSinks sink) :
    ∃ k ms w', a.measure t sink started e w = (.ok (), w') ∧ w'.Uses sink k ∧ Observed w w' ∧
      w'.sightings .request k = w.sightings .request k ++ [k.showing (a.measurement e ms)] := by
  obtain ⟨ended, hended⟩ := ht w
  obtain ⟨k, w₁, hsink, hready⟩ := Sink.orShared_readies (Or.inr rfl) hs
  obtain ⟨w₂, hrecord, hadds⟩ := Sink.recordRequest_adds
    (hready.observed.steady.delivers hw) hready.made
    (a.measurement e ((ended - started) * 1000))
  refine ⟨k, (ended - started) * 1000, w₂, ?_, ?_,
    trans_of Observed hready.observed hadds.observed, ?_⟩
  · rw [measure, bind_of_ok hended, bind_of_ok hsink]
    exact hrecord
  · exact hready.uses.imp id fun h => ⟨h.1, hadds.sharedSink.trans h.2⟩
  · rw [hadds.sightings, hready.sightings]

theorem post_exchange [Json.Depth] (h : a.Posts url body headers params r) (ht : t.Ticks)
    {w : World τ σ} (hw : (t.send r w).2.Delivers) (hs : (t.send r w).2.HasSinks sink) :
    ∃ result k ms w', a.post t sink url body headers params w = (result, w') ∧
      a.Answers (t.send r w).1 result ∧ w'.Uses sink k ∧
      w'.outside = (t.send r w).2.outside ∧
      w'.sightings .request k =
        (t.send r w).2.sightings .request k ++ [k.showing (a.measurement (t.send r w).1 ms)] := by
  obtain ⟨started, hstarted⟩ := ht w
  rw [post_apply h hstarted]
  generalize t.send r w = sent at hw hs
  obtain ⟨e, w₁⟩ := sent
  obtain ⟨result, w₂, hread, hanswers, hu⟩ := interpret_answers (a := a) e w₁
  have hs₂ : w₂.HasSinks sink := by
    unfold HasSinks
    rw [hu.sharedSink, hu.ledgers]
    exact hs
  obtain ⟨k, ms, w₃, hmeasure, huses, ho, hsightings⟩ :=
    measure_adds a ht started e (hu.observed.steady.delivers hw) hs₂
  refine ⟨result, k, ms, w₃, ?_, hanswers, huses, ?_, ?_⟩
  · rw [thereafter_apply, hread]
    dsimp only
    rw [hmeasure]
  · rw [ho.outside, hu.observed.outside]
  · rw [hsightings, hu.sightings]

namespace Overloaded

def adapter : Adapter := ⟨.gpt, .text "key", .text "model", .int 30000, "http://model"⟩

/-- Every request is one too many. -/
def transport : Transport Number Unit where
  send _ := Pure.pure (.response 429 [])
  stopwatch := Pure.pure 0

end Overloaded

end Provider.Adapter

end ResilientCalls
