import ResilientCalls.Proofs.Provider.Answer
import ResilientCalls.Proofs.Provider.Exchange
import ResilientCalls.Proofs.Text

namespace ResilientCalls

open Effect

theorem CodePoints.map_toChar_trim (ps : CodePoints) :
    ps.trim.map CodePoint.toChar = Text.trim (ps.map CodePoint.toChar) := by
  rw [Text.trim, Text.trimEnd, Text.trimStart, List.dropWhile_map, ← List.map_reverse,
    List.dropWhile_map, ← List.map_reverse]
  rfl

namespace Provider

open Answer

namespace Adapter

variable {τ σ : Type} {a : Adapter} {t : Transport τ σ} {sink : Option Sink} {r : Http.Request}

/-- What becomes of the reading of a content that is a text. -/
def Reads [Json.Depth] (content : List Nat) (x : Except Json.Refusal Document) : Prop :=
  ∃ ps, Text.decodeDetected content = .ok ps ∧ Json.read ps = x

/-- The content is an object. -/
abbrev IsObject [Json.Depth] (content : List Nat) (body : Fields) : Prop :=
  Reads content (.ok (.object body))

/-- The content is nested too deep to be read. -/
abbrev IsTooDeep [Json.Depth] (content : List Nat) (c : Json.Container) : Prop :=
  Reads content (.error (.tooDeep c))

/-- What the content of a response with a status of success makes of a call for an answer. -/
inductive Replies [Json.Depth] (a : Adapter) (content : List Nat) : Except Stop CodePoints → Prop
  | unusable (text : String) (hobject : ∀ body, ¬ IsObject content body)
      (hdeep : ∀ c, ¬ IsTooDeep content c) :
      Replies a content (.error (.failed (.emptyResponse a.name text)))
  | tooDeep (c : Json.Container) (h : IsTooDeep content c) :
      Replies a content (.error (.failed (.foreign (.tooDeep c))))
  | text (body : Fields) (h : IsObject content body) (texts : List CodePoints)
      (hshows : a.family.Shows body texts) (hne : CodePoints.trim texts.flatten ≠ []) :
      Replies a content (.ok (CodePoints.trim texts.flatten))
  | blank (body : Fields) (h : IsObject content body) (texts : List CodePoints)
      (hshows : a.family.Shows body texts) (hblank : CodePoints.trim texts.flatten = []) :
      Replies a content (.error (.failed (.emptyResponse a.name "")))
  | misread (body : Fields) (h : IsObject content body)
      (hshows : ∀ texts, ¬ a.family.Shows body texts) (f : Foreign) (hf : f.kind ∈ mistakes) :
      Replies a content (.error (.failed (.foreign f)))

/-- The endings that are promised: a text that is not empty and has no blanks at its ends, or a
failure that says there was none. -/
inductive Promised (a : Adapter) : Except Stop CodePoints → Prop
  | text (s : CodePoints) (h : Text.Trimmed (s.map CodePoint.toChar)) : Promised a (.ok s)
  | none (text : String) : Promised a (.error (.failed (.emptyResponse a.name text)))

variable {content : List Nat} {reply : Except Stop CodePoints}

theorem Reads.unique [Json.Depth] {x y : Except Json.Refusal Document} (hx : Reads content x)
    (hy : Reads content y) : x = y := by
  obtain ⟨ps, hps, rfl⟩ := hx
  obtain ⟨qs, hqs, rfl⟩ := hy
  rw [Except.ok.inj (hps.symm.trans hqs)]

theorem IsObject.unique [Json.Depth] {body body' : Fields} (h : IsObject content body)
    (h' : IsObject content body') : body = body' :=
  Json.object.inj (Except.ok.inj (Reads.unique h h'))

theorem IsObject.not_tooDeep [Json.Depth] {body : Fields} (h : IsObject content body)
    (c : Json.Container) : ¬ IsTooDeep content c := fun hc => by cases Reads.unique h hc

/-- It can be told of a content that it is no object, or what texts it shows. -/
structure Legible [Json.Depth] (a : Adapter) (content : List Nat) : Prop where
  shallow : ∀ c, ¬ IsTooDeep content c
  shows : ∀ body, IsObject content body → ∃ texts, a.family.Shows body texts

/-- The promise is kept of the contents that are legible, and of no other. -/
theorem Replies.promised_iff [Json.Depth] (h : a.Replies content reply) :
    a.Promised reply ↔ a.Legible content := by
  cases h with
  | unusable text hobject hdeep =>
    exact iff_of_true (.none text) ⟨hdeep, fun body hbody => absurd hbody (hobject body)⟩
  | tooDeep c hc =>
    refine iff_of_false ?_ fun hlegible => hlegible.shallow c hc
    rintro ⟨⟩
  | text body hbody texts hshows hne =>
    refine iff_of_true (.text _ ?_) ⟨IsObject.not_tooDeep hbody, fun body' hbody' => ?_⟩
    · rw [CodePoints.map_toChar_trim]
      refine Text.trimmed_trim ?_
      rw [← CodePoints.map_toChar_trim]
      simpa using hne
    · obtain rfl := IsObject.unique hbody hbody'
      exact ⟨texts, hshows⟩
  | blank body hbody texts hshows hblank =>
    refine iff_of_true (.none "") ⟨IsObject.not_tooDeep hbody, fun body' hbody' => ?_⟩
    obtain rfl := IsObject.unique hbody hbody'
    exact ⟨texts, hshows⟩
  | misread body hbody hshows f hf =>
    refine iff_of_false ?_ fun hlegible => ?_
    · rintro ⟨⟩
    · obtain ⟨texts, htexts⟩ := hlegible.shows body hbody
      exact hshows texts htexts

theorem Replies.eq_ok [Json.Depth] {body : Fields} {texts : List CodePoints}
    (h : a.Replies content reply) (hbody : IsObject content body)
    (hshows : a.family.Shows body texts)
    (hne : CodePoints.trim texts.flatten ≠ []) : reply = .ok (CodePoints.trim texts.flatten) := by
  have hsame : ∀ body' texts', IsObject content body' → a.family.Shows body' texts' →
      CodePoints.trim texts'.flatten = CodePoints.trim texts.flatten := by
    intro body' texts' hbody' hshows'
    obtain rfl := IsObject.unique hbody hbody'
    have hanswer := Family.answer_eq_ok_iff.2 ⟨texts, hshows, rfl⟩
    exact Except.ok.inj
      ((Family.answer_eq_ok_iff.2 ⟨texts', hshows', rfl⟩).symm.trans hanswer)
  cases h with
  | unusable text hobject => exact absurd hbody (hobject body)
  | tooDeep c hc => exact absurd hc (IsObject.not_tooDeep hbody c)
  | text body' hbody' texts' hshows' => rw [hsame body' texts' hbody' hshows']
  | blank body' hbody' texts' hshows' hblank =>
    rw [hsame body' texts' hbody' hshows'] at hblank
    exact absurd hblank hne
  | misread body' hbody' hnone =>
    obtain rfl := IsObject.unique hbody hbody'
    exact absurd hshows (hnone texts)

theorem replies_of_object [Json.Depth] {body : Fields} (hbody : IsObject content body)
    (w : World τ σ) :
    ∃ reply, (do
      let text ← Effect.ofForeign (a.family.answer (.object body))
      if text = [] then Effect.fail (.emptyResponse a.name "") else Pure.pure text :
        Run τ σ CodePoints) w = (reply, w) ∧ a.Replies content reply := by
  cases hanswer : a.family.answer (.object body) with
  | ok s =>
    obtain ⟨texts, hshows, rfl⟩ := Family.answer_eq_ok_iff.1 hanswer
    by_cases hblank : CodePoints.trim texts.flatten = []
    · refine ⟨_, ?_, .blank body hbody texts hshows hblank⟩
      rw [hblank]
      rfl
    · refine ⟨_, ?_, .text body hbody texts hshows hblank⟩
      show (if CodePoints.trim texts.flatten = [] then _ else _ : Run τ σ CodePoints) w = _
      rw [if_neg hblank]
      rfl
  | error f =>
    refine ⟨_, rfl, .misread body hbody (fun texts hshows => ?_) f
      (a.family.errs_answer _ f hanswer)⟩
    rw [Family.answer_eq_ok_iff.2 ⟨texts, hshows, rfl⟩] at hanswer
    cases hanswer

/-- The three ways in which the content of a response with a status of success is taken. -/
theorem Answers.taken [Json.Depth] {status : Int} {result : Except Stop Document}
    (h : a.Answers (.ok (.response status content)) result)
    (hstatus : 200 ≤ status ∧ status < 300) :
    (∃ body, IsObject content body ∧ result = .ok (.object body)) ∨
    (∃ c, IsTooDeep content c ∧ result = .error (.failed (.foreign (.tooDeep c)))) ∨
    ∃ text, (∀ body, ¬ IsObject content body) ∧ (∀ c, ¬ IsTooDeep content c) ∧
      result = .error (.failed (.emptyResponse a.name text)) := by
  -- a content that reads as one thing reads as no other
  have hother : ∀ {x : Except Json.Refusal Document}, Reads content x →
      (∀ body, x ≠ .ok (.object body)) → (∀ c, x ≠ .error (.tooDeep c)) →
        (∀ body, ¬ IsObject content body) ∧ ∀ c, ¬ IsTooDeep content c := fun hx hobject hdeep =>
    ⟨fun body hbody => hobject body (hx.unique hbody), fun c hc => hdeep c (hx.unique hc)⟩
  cases h with
  | refused _ _ h => exact absurd hstatus h
  | undecoded _ _ _ fault hd =>
    have hnone : ∀ x, ¬ Reads content x := by
      rintro x ⟨ps, hps, -⟩
      cases hd.symm.trans hps
    exact .inr (.inr ⟨_, fun _ => hnone _, fun _ => hnone _, rfl⟩)
  | notJson _ _ _ ps hd refusal hr hflat =>
    obtain ⟨hobject, hdeep⟩ := hother ⟨ps, hd, hr⟩ (by simp) (by simpa using hflat)
    exact .inr (.inr ⟨_, hobject, hdeep, rfl⟩)
  | tooDeep _ _ _ ps hd c hr => exact .inr (.inl ⟨c, ⟨ps, hd, hr⟩, rfl⟩)
  | notObject _ _ _ ps hd j hr hj =>
    obtain ⟨hobject, hdeep⟩ := hother ⟨ps, hd, hr⟩ (by simpa using hj) (by simp)
    exact .inr (.inr ⟨_, hobject, hdeep, rfl⟩)
  | returned _ _ _ ps hd body hr => exact .inl ⟨body, ⟨ps, hd, hr⟩, rfl⟩

/-- A call for an answer to which a response with a status of success comes ends as the table of
replies says. A body that is an object is answered with the texts that it shows, joined and without
the blanks at the two ends, or with the failure that says there was no text if nothing is left of
them; one that shows no texts, not even empty ones, is met with a mistake about its shape. So what
is promised, a text that is not empty and has no blanks at its ends or the failure that says there
was none, is kept of the bodies that are legible, and of no other. -/
theorem generate_replies [Json.Depth] (a : Adapter) (t : Transport τ σ) (sink : Option Sink)
    (system user : Json) (json : Bool) (r : Http.Request) (w : World τ σ) (status : Int)
    (content : List Nat)
    (h : a.Posts (.text a.endpoint) (a.payload system user json) a.headers a.params r)
    (ht : t.Ticks) (hw : (t.send r w).2.Delivers) (hs : (t.send r w).2.HasSinks sink)
    (hsent : (t.send r w).1 = .ok (.response status content))
    (hstatus : 200 ≤ status ∧ status < 300) :
    ∃ reply w', a.generate t sink system user json w = (reply, w') ∧ a.Replies content reply ∧
      (a.Promised reply ↔ a.Legible content) := by
  obtain ⟨result, k, ms, w', hpost, hanswers, -⟩ := post_exchange h ht hw hs
  rw [hsent] at hanswers
  have hreplied : ∃ reply, a.generate t sink system user json w = (reply, w') ∧
      a.Replies content reply := by
    rcases hanswers.taken hstatus with ⟨body, hbody, rfl⟩ | ⟨c, hc, rfl⟩ | ⟨text, hno, hc, rfl⟩
    · rw [generate, bind_of_ok hpost]
      exact replies_of_object hbody w'
    · rw [generate, bind_of_error hpost]
      exact ⟨_, rfl, .tooDeep c hc⟩
    · rw [generate, bind_of_error hpost]
      exact ⟨_, rfl, .unusable text hno hc⟩
  obtain ⟨reply, hreply, hreplies⟩ := hreplied
  exact ⟨reply, w', hreply, hreplies, hreplies.promised_iff⟩

namespace Answering

def gpt : Adapter := ⟨.gpt, .text "key", .text "model", .int 30000, "http://model"⟩

def gemini : Adapter := ⟨.gemini, .text "key", .text "model", .int 30000, "http://model"⟩

/-- Every request succeeds with the same content. -/
def transport (body : String) : Transport Number Unit where
  send _ := Pure.pure (.response 200 (body.toList.map Char.toNat))
  stopwatch := Pure.pure 0

def asks (a : Adapter) (body : String) : Run Number Unit CodePoints :=
  a.generate (transport body) none (.text "system") (.text "user") false

theorem ticks (body : String) : (transport body).Ticks := fun _ => ⟨0, rfl⟩

theorem delivers_start : (World.start (0 : Number) ()).Delivers := fun _ h => by cases h

theorem hasSinks_start : (World.start (0 : Number) ()).HasSinks none := by
  rintro s (h | h) <;> cases h

theorem posts_of_checked {a : Adapter} {timeout : Binary64} {hs : List (String × Json)}
    (hheaders : Http.jsonHeaders a.headers = .ok hs)
    (htimeout : timeoutSeconds a.timeoutMs = .ok timeout)
    (hmade : (Http.Request.post (.text a.endpoint)
      (a.payload (.text "system") (.text "user") false) hs a.params timeout).toOption.any (fun r =>
        !r.url.isRelative && !r.url.authority.any Http.isMisleading) = true) :
    ∃ r, a.Posts (.text a.endpoint) (a.payload (.text "system") (.text "user") false) a.headers
      a.params r := by
  obtain ⟨r, hr, hurl⟩ := (Option.any_eq_true _ _).1 hmade
  simp only [Bool.and_eq_true, Bool.not_eq_eq_eq_not, Bool.not_true] at hurl
  exact ⟨r, ⟨hs, timeout, hheaders, htimeout, eq_ok_of_toOption hr⟩, hurl.1, hurl.2⟩

theorem posts_gpt : ∃ r, gpt.Posts (.text gpt.endpoint)
    (gpt.payload (.text "system") (.text "user") false) gpt.headers gpt.params r :=
  posts_of_checked (by rfl) (by rfl) (by decide +kernel)

theorem posts_gemini : ∃ r, gemini.Posts (.text gemini.endpoint)
    (gemini.payload (.text "system") (.text "user") false) gemini.headers gemini.params r :=
  posts_of_checked (by rfl) (by rfl) (by decide +kernel)

/-- There is a text, between blanks. -/
def padded : String :=
  "\x7b\"choices\": [\x7b\"message\": \x7b\"content\": \" hi \"\x7d\x7d]\x7d"

def paddedFields : Fields :=
  [(.ofString "choices", .list [.object [(.ofString "message", .object
    [(.ofString "content", .text (.ofString " hi "))])]])]

/-- The text of the message is given without the blanks around it. -/
theorem generate_replies_padded : ∃ r w',
    gpt.Posts (.text gpt.endpoint) (gpt.payload (.text "system") (.text "user") false) gpt.headers
      gpt.params r ∧
    (transport padded).Ticks ∧
    asks gpt padded (.start 0 ()) = (.ok (CodePoints.ofString "hi"), w') ∧
    gpt.Promised (.ok (CodePoints.ofString "hi")) := by
  obtain ⟨r, hposts⟩ := posts_gpt
  obtain ⟨reply, w', hreply, hreplies, hpromised⟩ :=
    generate_replies gpt (transport padded) none (.text "system") (.text "user") false r
      (.start 0 ()) 200 _ hposts (ticks padded) delivers_start hasSinks_start rfl (by decide)
  have hreads : IsObject (padded.toList.map Char.toNat) paddedFields := ⟨_, rfl, rfl⟩
  have hshows : gpt.family.Shows paddedFields [.ofString " hi "] :=
    ⟨_, _, _, _, .made _, .first _ _, .made _, .made _, rfl⟩
  have hlegible : gpt.Legible (padded.toList.map Char.toNat) := by
    refine ⟨IsObject.not_tooDeep hreads, fun body hbody => ?_⟩
    obtain rfl := IsObject.unique hreads hbody
    exact ⟨_, hshows⟩
  obtain rfl := hreplies.eq_ok hreads hshows (by decide)
  exact ⟨r, w', hposts, ticks padded, hreply, hpromised.2 hlegible⟩

/-- The content of the message is a list. -/
def listed : String :=
  "\x7b\"choices\": [\x7b\"message\": \x7b\"content\": [\"hi\"]\x7d\x7d]\x7d"

/-- The candidate is in no list. -/
def single : String :=
  "\x7b\"candidates\": \x7b\"content\": null\x7d\x7d"

theorem asks_of_error {a : Adapter} {body : String} {fields : Fields} {f : Foreign}
    (hposts : ∃ r, a.Posts (.text a.endpoint) (a.payload (.text "system") (.text "user") false)
      a.headers a.params r)
    (hreads : IsObject (body.toList.map Char.toNat) fields)
    (hf : a.family.answer (.object fields) = .error f) :
    ∃ w', asks a body (.start 0 ()) = (.error (.failed (.foreign f)), w') := by
  obtain ⟨r, hposts⟩ := hposts
  obtain ⟨result, k, ms, w', hpost, hanswers, -⟩ :=
    post_exchange (w := .start 0 ()) hposts (ticks body) delivers_start hasSinks_start
  rcases hanswers.taken (by decide) with ⟨read, hread, rfl⟩ | ⟨c, hc, -⟩ | ⟨_, hno, -⟩
  · obtain rfl := IsObject.unique hread hreads
    refine ⟨w', (bind_of_ok hpost _).trans ?_⟩
    rw [hf]
    rfl
  · exact absurd hc (IsObject.not_tooDeep hreads c)
  · exact absurd hreads (hno fields)

/-- Both contents are objects, and of neither is the promise kept. -/
theorem generate_misread :
    (∃ body, IsObject (listed.toList.map Char.toNat) body) ∧
    (∃ body, IsObject (single.toList.map Char.toNat) body) ∧
    (∃ w', asks gpt listed (.start 0 ()) =
      (.error (.failed (.foreign (.noAttribute "list" "strip"))), w')) ∧
    (∃ w', asks gemini single (.start 0 ()) =
      (.error (.failed (.foreign (.missingKey (.int 0)))), w')) ∧
    ∀ (a : Adapter) (f : Foreign), ¬ a.Promised (.error (.failed (.foreign f))) := by
  have hlisted : IsObject (listed.toList.map Char.toNat) [(.ofString "choices",
      .list [.object [(.ofString "message", .object
        [(.ofString "content", .list [.text (.ofString "hi")])])]])] := ⟨_, rfl, rfl⟩
  have hsingle : IsObject (single.toList.map Char.toNat) [(.ofString "candidates",
      .object [(.ofString "content", .null)])] := ⟨_, rfl, rfl⟩
  refine ⟨⟨_, hlisted⟩, ⟨_, hsingle⟩, asks_of_error posts_gpt hlisted rfl,
    asks_of_error posts_gemini hsingle rfl, ?_⟩
  rintro a f ⟨⟩

end Answering

end Adapter

end Provider

end ResilientCalls
