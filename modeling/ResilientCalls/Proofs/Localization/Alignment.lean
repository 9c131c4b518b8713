import Mathlib.Data.List.Forall2
import ResilientCalls.Proofs.Localization.Limits
import ResilientCalls.Proofs.Service.Journal
import ResilientCalls.Proofs.Service.Motion

namespace ResilientCalls

open Effect World

variable {ε τ σ α : Type}

namespace Localization

/-- A text for an entry: that of the last result for its key, or its own if there is none. -/
inductive Translated (results : List Result) (e : Entry) : CodePoints → Prop where
  | last (before after : List Result) (text : CodePoints)
      (found : results = before ++ ⟨e.key.val, text⟩ :: after)
      (last : ∀ r ∈ after, r.key ≠ e.key.val) : Translated results e text
  | own (missing : ∀ r ∈ results, r.key ≠ e.key.val) : Translated results e (.ofString e.text)

theorem translated_lastFor? (results : List Result) (e : Entry) :
    Translated results e ((lastFor? e.key.val results).getD (.ofString e.text)) := by
  unfold lastFor?
  cases hfind : results.reverse.find? fun r => r.key = e.key.val with
  | none =>
    refine .own fun r hr => ?_
    simpa using List.find?_eq_none.1 hfind r (List.mem_reverse.2 hr)
  | some r =>
    obtain ⟨hkey, later, earlier, hsplit, hlater⟩ := List.find?_eq_some_iff_append.1 hfind
    rcases r with ⟨key, text⟩
    obtain rfl : key = e.key.val := by simpa using hkey
    refine .last earlier.reverse later.reverse text ?_ fun q hq => ?_
    · simpa using congrArg List.reverse hsplit
    · simpa using hlater q (List.mem_reverse.1 hq)

/-- What is aligned has one result for each entry, in order. -/
theorem forall₂_align (entries : List Entry) (results : List Result) :
    List.Forall₂ (fun e r => r.key = e.key.val ∧ Translated results e r.translatedText) entries
      (align entries results) := by
  rw [align, List.forall₂_map_right_iff, List.forall₂_same]
  exact fun e _ => ⟨rfl, translated_lastFor? results e⟩

theorem lastFor?_lookUp {m : StringMap} {entries : List Entry}
    (hnodup : (entries.map (·.key.val)).Nodup) {e : Entry} (he : e ∈ entries) :
    lastFor? e.key.val (Provider.lookUp m entries) =
      some ((m.text? e.key.val).getD (.ofString e.text)) := by
  obtain ⟨before, after, rfl⟩ := List.append_of_mem he
  -- no other entry has the key, so the entry's own result is the last one for it
  have hafter : ∀ f ∈ after, f.key.val ≠ e.key.val := by
    rw [List.map_append, List.map_cons, List.nodup_append, List.nodup_cons] at hnodup
    intro f hf heq
    exact hnodup.2.1.1 (heq ▸ List.mem_map_of_mem hf)
  have hlater : (Provider.lookUp m after).reverse.find? (fun r => r.key = e.key.val) = none := by
    simpa [Provider.lookUp] using hafter
  have hsplit : Provider.lookUp m (before ++ e :: after) =
      Provider.lookUp m before ++
        ⟨e.key.val, (m.text? e.key.val).getD (.ofString e.text)⟩ :: Provider.lookUp m after := by
    simp [Provider.lookUp]
  simp [lastFor?, hsplit, List.find?_append, hlater]

/-- Results that were looked up in a map are in line with the entries already. -/
theorem align_lookUp (m : StringMap) {entries : List Entry}
    (hnodup : (entries.map (·.key.val)).Nodup) :
    align entries (Provider.lookUp m entries) = Provider.lookUp m entries := by
  refine List.map_congr_left fun e he => ?_
  rw [lastFor?_lookUp hnodup he]
  rfl

end Localization

namespace Breaker.Guard

variable {s : Type} {g : Guard s} {Q : α → s → Prop} {body : Effect s α}

theorem gives_reporting (hb : Gives Q body) (hs : ∀ a, Moves (Keeping (Q a)) g.succeed) :
    Gives Q (g.reporting body) := by
  refine Gives.ending_bind (P := Q) (Gives.bind hb fun a w ha b hb => ?_) (fun a w ha b hb => ?_)
    fun e => ?_
  · have hgiven : b = a :=
      Gives.after (Q := fun b _ => b = a) g.succeed (fun _ => Gives.pure fun _ => rfl) w b hb
    subst hgiven
    exact Moves.bind (hs b) (fun _ => Moves.pure b) w ha
  · obtain rfl := Except.ok.inj hb
    exact ha
  · rcases e with f | _
    · exact Gives.after _ fun _ => Gives.fail f
    · exact Gives.stop _

theorem gives_call (hb : Gives Q body) (hs : ∀ a, Moves (Keeping (Q a)) g.succeed)
    (hr : ∀ a ticket, Moves (Keeping (Q a)) (g.release ticket)) : Gives Q (g.call body) := by
  refine Gives.after _ fun ticket => Gives.thereafter (gives_reporting hb hs) fun a w ha => ?_
  exact hr a ticket w ha

end Breaker.Guard

section Guarded

variable {g : Breaker.Guard (World τ σ)} {p : Provider τ σ} {wait : Binary64 → Run τ σ Unit}

/-- Attempts that return give what the body of the last one gave. -/
theorem Service.gives_attempts (s : Service) {Q : α → World τ σ → Prop} {body : Run τ σ α}
    (hb : Gives Q body) (hs : ∀ a, Moves (Keeping (Q a)) g.succeed)
    (hr : ∀ a ticket, Moves (Keeping (Q a)) (g.release ticket))
    (shouldRetry : Failure → Except Failure Bool) (onRetry : Failure → Nat → Run τ σ Unit) :
    Gives Q (s.attempts g wait shouldRetry onRetry body) := by
  refine Gives.after _ fun _ => Retry.gives_run _ _ ?_
  exact Breaker.Guard.gives_call (Gives.after _ fun _ => hb) hs hr

namespace Localization

theorem gives_succeeded (s : Service) (provider : String) (b : Batch) (results : List Result) :
    Gives (fun out _ => out = align b.entries results)
      (succeeded s provider b results : Run τ σ (List Result)) :=
  Gives.after _ fun _ => Gives.after _ fun _ => Gives.after _ fun _ => Gives.pure fun _ => rfl

/-- A batch that is answered keeps the limits, and its answer is what the provider gave, in line
with the entries. -/
theorem gives_translateBatchUnder (s : Service) (wait : Binary64 → Run τ σ Unit) {b : Batch}
    (hb : b.entries ≠ []) {Q : List Result → World τ σ → Prop}
    (hQ : ∀ a w w', Observed w w' → Q a w → Q a w') (hp : Gives Q (p.translate b))
    (hs : ∀ a, Moves (Keeping (Q a)) g.succeed)
    (hr : ∀ a ticket, Moves (Keeping (Q a)) (g.release ticket)) :
    Gives (fun out w => b.checkLimits = .ok () ∧
        ∃ results, Q results w ∧ out = align b.entries results)
      (translateBatchUnder s g p wait b) := by
  rw [translateBatchUnder, if_neg (by simpa using hb)]
  split
  · exact Gives.fail _
  · refine Gives.after _ fun _ => ?_
    refine Gives.ending_bind (s.gives_attempts hp hs hr _ _) (fun results w hq out hout => ?_)
      fun e => ?_
    · refine ⟨‹_›, results, ?_, gives_succeeded s _ b results w out hout⟩
      exact hQ _ _ _ (moves_succeeded s _ b results w) hq
    · rcases e with f | _
      · exact Gives.after _ fun _ => Gives.after _ fun _ => Gives.fail _
      · exact Gives.stop _

end Localization

end Guarded

namespace Journal

theorem gives_replying (x : Run τ σ α) :
    Gives (fun a w => w.outside.1.getLast? = some (some a)) (replying Except.toOption x) := by
  intro w a ha
  rw [replying_apply] at ha ⊢
  show (w.outside.1 ++ [_]).getLast? = _
  rw [List.getLast?_concat]
  exact congrArg (fun r => some (Except.toOption r)) ha

/-- A provider that answers prompts, with its answers noted. -/
def answering [Json.Depth] (name : String) (model : Json)
    (generate : String → String → Bool → Run τ σ CodePoints) :
    Provider τ (List (Option CodePoints) × σ) :=
  Provider.ofGenerate name model fun system user json =>
    replying Except.toOption (generate system user json)

/-- What is translated by a prompt was looked up in the map that the last answer reads as. -/
theorem gives_translateByPrompt [Json.Depth] (name : String) (model : Json)
    (generate : String → String → Bool → Run τ σ CodePoints) (b : Localization.Batch) :
    Gives (fun results w => ∃ t m, w.outside.1.getLast? = some (some t) ∧
        StringMap.recover t = .ok m ∧ results = Provider.lookUp m b.entries)
      ((answering name model generate).translate b) := by
  refine Gives.bind (gives_replying _) fun t w ht results hresults => ?_
  cases hread : StringMap.recover t with
  | error reasons =>
    rw [Provider.readMap, hread] at hresults
    cases hresults
  | ok m =>
    refine ⟨t, m, ?_⟩
    rw [Provider.readMap, hread] at hresults ⊢
    dsimp only at hresults ⊢
    rw [pure_bind] at hresults ⊢
    -- telling of missing keys leaves the journal and the results as they are
    generalize Provider.missing m b.entries = keys at hresults ⊢
    cases keys with
    | nil => exact ⟨ht, rfl, (Except.ok.inj hresults).symm⟩
    | cons key rest => exact ⟨ht, rfl, (Except.ok.inj hresults).symm⟩

/-- A batch that is answered is answered alike with a journal, and what the journal says of the
provider's results holds of those that the answer is in line with. -/
theorem translateBatch_of_gives [Clock τ] (s : Service) {p : Provider τ σ}
    {q : Provider τ (List ε × σ)} (hm : q.Mirror Prod.snd p) (wait : Binary64 → Run τ σ Unit)
    {b : Localization.Batch} (hb : b.entries ≠ []) {Q : List Localization.Result → List ε → Prop}
    (hq : Gives (fun results w => Q results w.outside.1) (q.translate b)) {w w' : World τ σ}
    {out : List Localization.Result}
    (h : Localization.translateBatch s p wait b w = (.ok out, w')) :
    b.checkLimits = .ok () ∧ ∃ js results,
      Localization.translateBatch s q (fun d => blind (wait d)) b (withJournal [] w) =
        (.ok out, withJournal js w') ∧
      Q results js ∧ out = Localization.align b.entries results := by
  have hrun := journal_of_mirrors
    (Localization.mirrors_translateBatchUnder (Breaker.mirrors_guard _ s.breaker) hm
      (fun d => mirrors_blind (wait d)) s b) (w := w) rfl
  have hkeeps : ∀ (results : List Localization.Result) (v v' : Noted ε τ σ), Steady v v' →
      Q results v.outside.1 → Q results v'.outside.1 := by
    intro results v v' hv hr
    rw [hv.outside]
    exact hr
  have hgives := Localization.gives_translateBatchUnder (g := Breaker.guard s.breaker) s
    (fun d => blind (wait d)) hb
    (fun results v v' hv => hkeeps results v v' hv.steady) hq
    (fun results => (Breaker.moves_advance s.breaker _).mono (hkeeps results))
    fun results ticket => (Breaker.moves_guard_release s.breaker ticket).mono (hkeeps results)
  have hend : Localization.translateBatchUnder s (Breaker.guard s.breaker) p wait b w =
    (.ok out, w') := h
  rw [hend] at hrun
  obtain ⟨hlimits, results, hresults, hout⟩ :=
    hgives (withJournal [] w) out (congrArg Prod.fst hrun)
  exact ⟨hlimits, _, results, hrun, hresults, hout⟩

end Journal

namespace Localization

open Journal

/-- A batch that is answered keeps the limits, and has one result for each of its entries, in order.
A result's text is the last one for its key among those that the provider returned last, or else the
entry's own. If the provider answers prompts, the results are what the map of its last answer says
of the entries, and lining them up again changes nothing. -/
theorem translateBatch_aligned [Json.Depth] [Clock τ] (s : Service) (p : Provider τ σ)
    (wait : Binary64 → Run τ σ Unit) {b : Batch} (hb : b.entries ≠ []) {w w' : World τ σ}
    {out : List Result} (h : translateBatch s p wait b w = (.ok out, w')) :
    b.checkLimits = .ok () ∧
    (∃ replies results,
      translateBatch s (noting (fun _ => none) Except.toOption p) (fun d => blind (wait d)) b
          (withJournal [] w) = (.ok out, withJournal replies w') ∧
        replies.getLast? = some (some results) ∧
        List.Forall₂ (fun e r => r.key = e.key.val ∧ Translated results e r.translatedText)
          b.entries out) ∧
    ∀ name model generate, p = Provider.ofGenerate name model generate → ∃ answers t m,
      translateBatch s (answering name model generate) (fun d => blind (wait d)) b
          (withJournal [] w) = (.ok out, withJournal answers w') ∧
        answers.getLast? = some (some t) ∧ StringMap.recover t = .ok m ∧
        out = b.entries.map (fun e => ⟨e.key.val, (m.text? e.key.val).getD (.ofString e.text)⟩) ∧
        align b.entries (Provider.lookUp m b.entries) = Provider.lookUp m b.entries := by
  obtain ⟨hlimits, replies, results, hrun, hlast, hout⟩ := translateBatch_of_gives s
    (mirror_noting (fun _ => none) Except.toOption p) wait hb
    (Q := fun results js => js.getLast? = some (some results)) (gives_replying _) h
  refine ⟨hlimits, ⟨replies, results, hrun, hlast, ?_⟩, ?_⟩
  · rw [hout]
    exact forall₂_align b.entries results
  · rintro name model generate rfl
    obtain ⟨-, answers, results, hrun, ⟨t, m, hlast, hread, hresults⟩, hout⟩ :=
      translateBatch_of_gives s
        (Provider.mirror_ofGenerate name model fun _ _ _ => mirrors_replying _ _) wait hb
        (Q := fun results js => ∃ t m, js.getLast? = some (some t) ∧
          StringMap.recover t = .ok m ∧ results = Provider.lookUp m b.entries)
        (gives_translateByPrompt name model generate b) h
    have hsame := align_lookUp m (Batch.nodup_keys_of_checkLimits hlimits)
    refine ⟨answers, t, m, hrun, hlast, hread, ?_, hsame⟩
    rw [hout, hresults, hsame]
    rfl

namespace Greeting

def config : Breaker.Config :=
  ⟨.text "translation:guide", .bool true, 5, 30000, 4, by decide, by decide, by decide, by decide⟩

def world : World Number Unit :=
  { World.start 0 () with registry := (Breaker.Registry.empty.add config).1 }

def service : Service := ⟨.translating, 0, .standard, ⟨[], false⟩, none⟩

/-- The answer knows one of the keys, and one that was not asked for. -/
def generate (_ _ : String) (_ : Bool) : Run Number Unit CodePoints :=
  Pure.pure (CodePoints.ofString "\x7b\"bye\": \"Dag\", \"hi\": \"Hoi\"\x7d")

def provider : Provider Number Unit := .ofGenerate "guide" .null generate

def batch : Batch :=
  ⟨[⟨⟨"hello", by decide⟩, "Hello", none⟩, ⟨⟨"bye", by decide⟩, "Goodbye", none⟩],
    ⟨"en-GB", by decide⟩, ⟨"nl", by decide⟩, none, .plain⟩

def wait (_ : Binary64) : Run Number Unit Unit := Pure.pure ()

def results : List Result := [⟨"hello", .ofString "Hello"⟩, ⟨"bye", .ofString "Dag"⟩]

theorem answered : ∃ w, translateBatch service provider wait batch world = (.ok results, w) := by
  have hresults : (translateBatch service provider wait batch world).1.toOption = some results := by
    decide +kernel
  exact exists_of_toOption hresults

/-- One text is taken from the answer; the other is the entry's own. -/
theorem translateBatch_aligned_greeting : ∃ w,
    (∃ replies results',
      translateBatch service (noting (fun _ => none) Except.toOption provider)
          (fun d => blind (wait d)) batch (withJournal [] world) =
        (.ok results, withJournal replies w) ∧
      replies.getLast? = some (some results') ∧
      List.Forall₂ (fun e r => r.key = e.key.val ∧ Translated results' e r.translatedText)
        batch.entries results) ∧
    ∃ answers t m,
      translateBatch service (answering "guide" .null generate) (fun d => blind (wait d)) batch
          (withJournal [] world) = (.ok results, withJournal answers w) ∧
      answers.getLast? = some (some t) ∧ StringMap.recover t = .ok m ∧
      results = batch.entries.map fun e =>
        ⟨e.key.val, (m.text? e.key.val).getD (.ofString e.text)⟩ := by
  obtain ⟨w, hw⟩ := answered
  obtain ⟨-, hreplies, hanswers⟩ := translateBatch_aligned service provider wait (by decide) hw
  obtain ⟨answers, t, m, hrun, hlast, hread, hresults, -⟩ := hanswers "guide" .null generate rfl
  exact ⟨w, hreplies, answers, t, m, hrun, hlast, hread, hresults⟩

end Greeting

end Localization

end ResilientCalls
