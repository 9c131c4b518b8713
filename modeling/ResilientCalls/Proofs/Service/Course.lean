import ResilientCalls.Proofs.Service.Fallback

namespace ResilientCalls

open Effect World

variable {τ σ α : Type}

namespace Journal

/-- What happens in the course of a call. -/
inductive Incident where
  | admitted
  /-- The breaker let the call not be made, be it before the attempts or at one. -/
  | refused (e : Ending)
  | replied (e : Ending)
  | waited (e : Ending)

namespace Incident

/-- Does a call go on after that? -/
def GoesOn (again : Failure → Bool) : Incident → Prop
  | .admitted | .waited .returned => True
  | .refused (.failed f) | .replied (.failed f) => again f = true
  | _ => False

/-- A call ends so when that was the last of it. -/
inductive Closes (s : Service) (again : Failure → Bool) : Incident → Except Stop α → Prop where
  | refused (f : Failure) : Closes s again (.refused (.failed f)) (.error (.failed f))
  | injected : Closes s again .admitted (.error (.failed (s.fault "retry-attempt")))
  | replied (r : Except Stop α) : Closes s again (.replied (.of r)) r
  | waited (e : Stop) : Closes s again (.waited (.of (.error e : Except Stop Unit))) (.error e)
  /-- How long to wait is out of range. -/
  | unmeasured (i : Incident) (made : Nat) (f : Failure) : i.GoesOn again →
      s.policy.delayMs made = .error f → Closes s again i (.error (.failed f))

end Incident

/-- A call has ended so, after these incidents. -/
def Ended (s : Service) (again : Failure → Bool) (r : Except Stop α) (is : List Incident) : Prop :=
  ∃ before last, is = before ++ [last] ∧ (∀ i ∈ before, i.GoesOn again) ∧ last.Closes s again r

/-- What is noted of an attempt. -/
inductive Attempted (s : Service) : Except Stop α → List Incident → Prop where
  | refused (f : Failure) : Attempted s (.error (.failed f)) [.refused (.failed f)]
  | injected : Attempted s (.error (.failed (s.fault "retry-attempt"))) [.admitted]
  | replied (r : Except Stop α) : Attempted s r [.admitted, .replied (.of r)]

variable {s : Service} {again : Failure → Bool} {r : Except Stop α} {is : List Incident}

theorem Ended.prepend (h : Ended s again r is) (js : List Incident)
    (hjs : ∀ i ∈ js, i.GoesOn again) : Ended s again r (js ++ is) := by
  obtain ⟨before, last, rfl, hbefore, hlast⟩ := h
  refine ⟨js ++ before, last, (List.append_assoc ..).symm, fun i hi => ?_, hlast⟩
  rcases List.mem_append.1 hi with hi | hi
  · exact hjs i hi
  · exact hbefore i hi

/-- What a call does not go on after was the last of it. -/
theorem Ended.closes (h : Ended s again r is) {place : Nat} {i : Incident}
    (hi : is[place]? = some i) (hstop : ¬ i.GoesOn again) :
    place + 1 = is.length ∧ i.Closes s again r := by
  obtain ⟨before, last, rfl, hbefore, hlast⟩ := h
  have hplace : ¬ place < before.length := by
    intro hlt
    rw [List.getElem?_append_left hlt] at hi
    exact hstop (hbefore i (List.mem_of_getElem? hi))
  obtain ⟨hlt, -⟩ := List.getElem?_eq_some_iff.1 hi
  rw [List.length_append, List.length_singleton] at hlt ⊢
  obtain rfl : place = before.length := by omega
  refine ⟨rfl, ?_⟩
  rw [List.getElem?_concat_length] at hi
  rw [← Option.some.inj hi]
  exact hlast

/-- A failure that is not to be retried ends a call, whether the breaker made it or the provider. -/
theorem Ended.declined (h : Ended s again r is) {f : Failure} (hf : again f = false) {place : Nat}
    (hi : is[place]? = some (.refused (.failed f)) ∨ is[place]? = some (.replied (.failed f))) :
    place + 1 = is.length ∧ r = .error (.failed f) := by
  have hstop : ¬ again f = true := by simp [hf]
  rcases hi with hi | hi
  · obtain ⟨hplace, hcloses⟩ := h.closes hi hstop
    refine ⟨hplace, ?_⟩
    cases hcloses with
    | refused f => rfl
    | unmeasured i made f' hon hd => exact absurd hon hstop
  · obtain ⟨hplace, hcloses⟩ := h.closes hi hstop
    refine ⟨hplace, ?_⟩
    generalize hreply : Incident.replied (.failed f) = i at hcloses
    cases hcloses with
    | replied r => exact eq_of_ending (Incident.replied.inj hreply).symm
    | unmeasured i made f' hon hd =>
      rw [← hreply] at hon
      exact absurd hon hstop
    | refused f => cases hreply
    | injected => cases hreply
    | waited e => cases hreply

theorem Incident.Closes.ended {i : Incident} (h : i.Closes s again r) : Ended s again r [i] :=
  ⟨[], i, rfl, by simp, h⟩

theorem Attempted.ended (h : Attempted s r is) : Ended s again r is := by
  cases h with
  | refused f => exact (Incident.Closes.refused f).ended
  | injected => exact Incident.Closes.injected.ended
  | replied r =>
    exact (Incident.Closes.replied r).ended.prepend [.admitted] (by simp [Incident.GoesOn])

theorem Attempted.goesOn {f : Failure} (h : Attempted s (.error (.failed f) : Except Stop α) is)
    (hf : again f = true) : ∀ i ∈ is, i.GoesOn again := by
  cases h <;> simp [Incident.GoesOn, Ending.of, hf]

/-- The delay after an attempt cannot be told. -/
theorem Attempted.unmeasured {f : Failure}
    (h : Attempted s (.error (.failed f) : Except Stop α) is) (hf : again f = true) {made : Nat}
    {f' : Failure} (hd : s.policy.delayMs made = .error f') :
    Ended s again (.error (.failed f') : Except Stop α) is := by
  have hon := h.goesOn hf
  cases h with
  | refused f => exact (Incident.Closes.unmeasured _ made f' (hon _ (by simp)) hd).ended
  | injected => exact (Incident.Closes.unmeasured _ made f' (hon _ (by simp)) hd).ended
  | replied r =>
    refine (Incident.Closes.unmeasured _ made f' (hon _ ?_) hd).ended.prepend [.admitted] ?_
    · exact List.mem_cons_of_mem _ (List.mem_singleton_self _)
    · simp [Incident.GoesOn]

namespace Course

/-- A provider whose replies are noted. -/
def provider (p : Provider τ σ) : Provider τ (List Incident × σ) :=
  noting (fun r => .replied (.of r)) (fun r => .replied (.of r)) p

def waiting (wait : Binary64 → Run τ σ Unit) (d : Binary64) : Run τ (List Incident × σ) Unit :=
  replying (fun r => .waited (.of r)) (wait d)

/-- A guard whose refusals and admissions are noted. -/
def guard (g : Breaker.Guard (Noted Incident τ σ)) : Breaker.Guard (Noted Incident τ σ) where
  check := do
    match ← Effect.ending g.check with
    | .ok u => return u
    | .error e => do
      note (.refused (.of (.error e : Except Stop Unit)))
      Effect.stop e
  enter := do
    match ← Effect.ending g.enter with
    | .ok t => do
      note .admitted
      return t
    | .error e => do
      note (.refused (.of (.error e : Except Stop Unit)))
      Effect.stop e
  succeed := g.succeed
  fail := g.fail
  release := g.release

theorem follow_guard {g : Breaker.Guard (Noted Incident τ σ)} {h : Breaker.Guard (World τ σ)}
    (hg : g.Follow (World.mapOutside Prod.snd) h) :
    (guard g).Follow (World.mapOutside Prod.snd) h where
  check := by
    refine mirrors_ending_bind hg.check fun r => ?_
    cases r with
    | ok u => exact Follows.pure u
    | error e => exact mirrors_note (Follows.stop e)
  enter := by
    refine mirrors_ending_bind hg.enter fun r => ?_
    cases r with
    | ok t => exact mirrors_note (Follows.pure t)
    | error e => exact mirrors_note (Follows.stop e)
  succeed := hg.succeed
  fail := hg.fail
  release t := hg.release t

theorem mirror_provider (p : Provider τ σ) : (provider p).Mirror Prod.snd p := mirror_noting _ _ p

theorem mirrors_waiting (wait : Binary64 → Run τ σ Unit) (d : Binary64) :
    Mirrors Prod.snd (waiting wait d) (wait d) := mirrors_replying _ (wait d)

variable [Clock τ]

theorem writes_check (id : Breaker.Id) :
    Writes (guard (Breaker.guard id : Breaker.Guard (Noted Incident τ σ))).check fun r is =>
      (r = .ok () ∧ is = []) ∨ ∃ f, r = .error (.failed f) ∧ is = [.refused (.failed f)] := by
  have hcheck : Writes (Breaker.check id : Run τ (List Incident × σ) Unit)
      fun r is => r ≠ .error .cancelled ∧ is = [] :=
    Writes.of_steady ((Breaker.moves_check id).mono fun _ _ h => h.steady)
      fun _ hw => ⟨Breaker.check_ne_cancelled id hw, rfl⟩
  refine Writes.ending_bind hcheck fun r is ⟨hne, his⟩ => ?_
  subst his
  rcases r with (f | _) | u
  · exact Writes.note_bind (Writes.conclude (.error (.failed f)) (Or.inr ⟨f, rfl, rfl⟩))
  · exact absurd rfl hne
  · exact Writes.conclude (.ok u) (Or.inl ⟨rfl, rfl⟩)

theorem writes_enter (id : Breaker.Id) :
    Writes (guard (Breaker.guard id : Breaker.Guard (Noted Incident τ σ))).enter fun r is =>
      (∃ t, r = .ok t ∧ is = [.admitted]) ∨
        ∃ f, r = .error (.failed f) ∧ is = [.refused (.failed f)] := by
  have henter : Writes (Breaker.enter id : Run τ (List Incident × σ) Breaker.Ticket)
      fun r is => r ≠ .error .cancelled ∧ is = [] :=
    Writes.of_steady (Breaker.moves_enter id) fun _ hw => ⟨Breaker.enter_ne_cancelled id hw, rfl⟩
  refine Writes.ending_bind henter fun r is ⟨hne, his⟩ => ?_
  subst his
  rcases r with (f | _) | t
  · exact Writes.note_bind (Writes.conclude (.error (.failed f)) (Or.inr ⟨f, rfl, rfl⟩))
  · exact absurd rfl hne
  · exact Writes.note_bind (Writes.conclude (.ok t) (Or.inl ⟨t, rfl, rfl⟩))

theorem writes_call (id : Breaker.Id) {body : Run τ (List Incident × σ) α}
    {P : Except Stop α → List Incident → Prop} (hb : Writes body P) :
    Writes ((guard (Breaker.guard id)).call body) fun r is =>
      (∃ f, r = .error (.failed f) ∧ is = [.refused (.failed f)]) ∨
        ∃ js, P r js ∧ is = .admitted :: js := by
  have hreporting : Writes ((guard (Breaker.guard id)).reporting body) P :=
    writes_reporting_of_silent (silent_advance id _) (silent_advance id _) hb
  refine Writes.bind (writes_enter id) (fun t is his => ?_) fun e is his => ?_
  · rcases his with ⟨t', -, rfl⟩ | ⟨f, hf, -⟩
    · refine Writes.ending_bind hreporting fun r js h => ?_
      have hkept : Writes (Effect.conclude r : Run τ (List Incident × σ) α) fun q ks =>
          q = r ∧ ks = [] := Writes.conclude r ⟨rfl, rfl⟩
      refine Writes.bind (silent_release id t) (fun u ks hks => ?_) fun e ks hks => ?_
      · refine hkept.mono fun q ls hq => Or.inr ⟨js, ?_, ?_⟩
        · rw [hq.1]
          exact h
        · rw [hks.2, hq.2]
          simp
      · cases hks.1
    · cases hf
  · rcases his with ⟨t, ht, -⟩ | ⟨f, hf, rfl⟩
    · cases ht
    · cases hf
      exact Or.inl ⟨f, rfl, rfl⟩

/-- A call that may be ended by a fault before the provider's reply is one attempt. -/
theorem writes_attempt (s : Service) {body : Run τ (List Incident × σ) α}
    (hb : Writes body fun r is => is = [.replied (.of r)]) :
    Writes (s.attempt (guard (Breaker.guard s.breaker)) body) (Attempted s) := by
  have hbody : Writes (s.checkpoint "retry-attempt" >>= fun _ => body) fun r is =>
      (r = .error (.failed (s.fault "retry-attempt")) ∧ is = []) ∨ is = [.replied (.of r)] := by
    refine Writes.bind (writes_checkpoint s _) (fun u js hjs => ?_) fun e js hjs => ?_
    · obtain ⟨rfl, -⟩ := hjs
      exact hb.mono fun r js hjs => Or.inr hjs
    · obtain ⟨rfl, he⟩ := hjs
      obtain rfl := he e rfl
      exact Or.inl ⟨rfl, rfl⟩
  refine (writes_call s.breaker hbody).mono fun r is his => ?_
  rcases his with ⟨f, rfl, rfl⟩ | ⟨js, ⟨rfl, rfl⟩ | rfl, rfl⟩
  · exact .refused f
  · exact .injected
  · exact .replied r

variable {s : Service} {again : Failure → Bool}

omit [Clock τ] in
/-- A pause notes its wait, unless there is none or its length cannot be told. -/
theorem writes_pause {h : Retry.Hooks (Noted Incident τ σ)}
    (htell : ∀ f made, Silent (h.onRetry f made))
    (hwait : ∀ d, Writes (h.wait d) fun r is => is = [.waited (.of r)])
    (hlog : ∀ r, Silent (h.log r)) (p : Retry.Policy) (f : Failure) (made : Nat) :
    Writes (Retry.pause p h f made) fun r is =>
      (is = [] ∧ ∀ e, r = .error e → ∃ f', e = .failed f' ∧ p.delayMs made = .error f') ∨
        is = [.waited (.of r)] := by
  have hafter : ∀ x : Run τ (List Incident × σ) Unit,
      Writes x (fun r is => (is = [] ∧ r = .ok ()) ∨ is = [.waited (.of r)]) → ∀ d,
      Writes (h.onRetry f made >>= fun _ => h.log (Retry.retrying f made d) >>= fun _ => x)
        fun r is => (is = [] ∧ r = .ok ()) ∨ is = [.waited (.of r)] := by
    intro x hx d
    refine Writes.bind (htell f made) (fun u is hu => ?_) fun e is he => by cases he.1
    rw [hu.2]
    refine Writes.bind (hlog _) (fun u is hu => ?_) fun e is he => by cases he.1
    rw [hu.2]
    exact hx
  unfold Retry.pause
  cases hd : p.delayMs made with
  | error f' =>
    refine Writes.conclude (.error (.failed f')) (Or.inl ⟨rfl, fun e he => ?_⟩)
    cases he
    exact ⟨f', rfl, rfl⟩
  | ok d =>
    rw [ofExcept_ok, pure_bind]
    refine (hafter _ ?_ d).mono fun r is his => ?_
    · split
      · exact (hwait _).mono fun r is his => Or.inr his
      · exact Writes.conclude (.ok ()) (Or.inl ⟨rfl, rfl⟩)
    · rcases his with ⟨rfl, rfl⟩ | his
      · exact Or.inl ⟨rfl, fun e he => by cases he⟩
      · exact Or.inr his

omit [Clock τ] in
/-- Whatever is left to be tried, what is noted last tells how the attempts end. -/
theorem writes_attemptFrom {h : Retry.Hooks (Noted Incident τ σ)}
    (hask : ∀ f, h.shouldRetry f = Pure.pure (again f))
    (htell : ∀ f made, Silent (h.onRetry f made))
    (hwait : ∀ d, Writes (h.wait d) fun r is => is = [.waited (.of r)])
    (hlog : ∀ r, Silent (h.log r)) {action : Run τ (List Incident × σ) α}
    (ha : Writes action (Attempted s)) (made left : Nat) :
    Writes (Retry.attemptFrom s.policy h action made left) (Ended s again) := by
  have hgive : ∀ {r is}, Attempted s r is → Writes (Effect.conclude r : Run τ (List Incident × σ) α)
      fun r js => Ended s again r (is ++ js) := by
    intro r is h
    refine Writes.conclude r ?_
    rw [List.append_nil]
    exact h.ended
  have hfail : ∀ {f is}, Attempted s (.error (.failed f) : Except Stop α) is → ∀ l,
      Writes (h.log l >>= fun _ => Effect.fail f) fun r js => Ended s again r (is ++ js) :=
    fun h l => (hlog l).conclude _ _ h.ended
  -- on the attempts that are left: all that was noted before one of them lets the call go on
  induction left generalizing made with
  | zero =>
    refine Writes.ending_bind ha fun r is h => ?_
    rcases r with (f | _) | a
    · exact hfail h _
    · exact hgive h
    · exact hgive h
  | succ left ih =>
    refine Writes.ending_bind ha fun r is h => ?_
    rcases r with (f | _) | a
    · dsimp only
      rw [hask, pure_bind]
      split
      · next hf =>
        refine Writes.bind (writes_pause htell hwait hlog _ f made) (fun u js hjs => ?_)
          fun e js hjs => ?_
        · have hon : ∀ i ∈ is ++ js, i.GoesOn again := by
            intro i hi
            rcases List.mem_append.1 hi with hi | hi
            · exact h.goesOn hf i hi
            · rcases hjs with ⟨rfl, -⟩ | rfl
              · cases hi
              · rw [List.mem_singleton.1 hi]
                trivial
          refine (ih (made + 1)).mono fun r ks hks => ?_
          rw [← List.append_assoc]
          exact hks.prepend _ hon
        · rcases hjs with ⟨rfl, he⟩ | rfl
          · obtain ⟨f', rfl, hd⟩ := he e rfl
            rw [List.append_nil]
            exact h.unmeasured hf hd
          · exact (Incident.Closes.waited e).ended.prepend _ (h.goesOn hf)
      · exact hfail h _
    · exact hgive h
    · exact hgive h

/-- What is noted last of a call's attempts tells how they end. -/
theorem writes_attempts (s : Service) (again : Failure → Bool)
    {onRetry : Failure → Nat → Run τ (List Incident × σ) Unit}
    (htell : ∀ f made, Silent (onRetry f made))
    {wait : Binary64 → Run τ (List Incident × σ) Unit}
    (hwait : ∀ d, Writes (wait d) fun r is => is = [.waited (.of r)])
    {body : Run τ (List Incident × σ) α} (hb : Writes body fun r is => is = [.replied (.of r)]) :
    Writes (s.attempts (guard s.guard) wait (fun f => .ok (again f)) onRetry body)
      (Ended s again) := by
  have hlog : ∀ r, Silent (Run.logged r : Run τ (List Incident × σ) Unit) := fun r =>
    silent_of_returns (moves_logged r) (returns_logged r)
  refine Writes.bind (writes_check s.breaker) (fun u is his => ?_) fun e is his => ?_
  · rcases his with ⟨-, rfl⟩ | ⟨f, hf, -⟩
    · exact writes_attemptFrom (fun f => rfl) htell hwait hlog (writes_attempt s hb) 1 _
    · cases hf
  · rcases his with ⟨he, -⟩ | ⟨f, hf, rfl⟩
    · cases he
    · cases hf
      exact (Incident.Closes.refused f).ended

end Course

end Journal

end ResilientCalls
