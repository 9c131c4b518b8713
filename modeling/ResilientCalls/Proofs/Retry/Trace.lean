import ResilientCalls.Proofs.Outside
import ResilientCalls.Proofs.Retry.Schedule

namespace ResilientCalls.Retry

open Effect

variable {s α β : Type}

/-- A call, with the way in which it ended. -/
inductive Call (α : Type) where
  | acted (r : Except Stop α)
  | asked (f : Failure) (r : Except Stop Bool)
  | told (f : Failure) (made : Nat) (r : Except Stop Unit)
  | waited (seconds : Binary64) (r : Except Stop Unit)

namespace Call

def action? : Call α → Option (Except Stop α)
  | acted r => some r
  | _ => none

def question? : Call α → Option Failure
  | asked f _ => some f
  | _ => none

def notice? : Call α → Option (Failure × Nat)
  | told f made _ => some (f, made)
  | _ => none

def wait? : Call α → Option Binary64
  | waited seconds _ => some seconds
  | _ => none

end Call

/-- A computation whose end is added to the trace. -/
def traced (call : Except Stop β → Call α) (x : Effect s β) : Effect (List (Call α) × s) β :=
  fun w => ((x w.2).1, w.1 ++ [call (x w.2).1], (x w.2).2)

/-- A computation that adds nothing to the trace. -/
def untraced (x : Effect s β) : Effect (List (Call α) × s) β :=
  fun w => ((x w.2).1, w.1, (x w.2).2)

def Hooks.traced (h : Hooks s) : Hooks (List (Call α) × s) where
  shouldRetry f := Retry.traced (.asked f) (h.shouldRetry f)
  onRetry f made := Retry.traced (.told f made) (h.onRetry f made)
  wait seconds := Retry.traced (.waited seconds) (h.wait seconds)
  log r := untraced (h.log r)

theorem follow_traced (h : Hooks s) : (h.traced (α := α)).Follow Prod.snd h where
  shouldRetry _ _ := rfl
  onRetry _ _ _ := rfl
  wait _ _ := rfl
  log _ _ := rfl

/-- A run does with a trace what it does without one. -/
theorem run_traced (p : Policy) (h : Hooks s) (action : Effect s α) (w : s) :
    run p h.traced (traced .acted action) ([], w) =
      ((run p h action w).1, (run p h.traced (traced .acted action) ([], w)).2.1,
        (run p h action w).2) := by
  have haction : Follows Prod.snd (traced .acted action) action := fun _ => rfl
  have hrun := follows_run p (follow_traced h) haction ([], w)
  rw [hrun]

/-- A failed attempt that another one follows, and the milliseconds to wait in between. -/
structure Round where
  failure : Failure
  delayMs : Binary64

/-- The calls of a round: the attempt, the question whether to retry, the notice and the wait, if
there is anything to wait for. -/
def Round.calls (made : Nat) (r : Round) : List (Call α) :=
  [.acted (.error (.failed r.failure)), .asked r.failure (.ok true),
    .told r.failure made (.ok ())] ++
    if 0 < r.delayMs then [.waited (r.delayMs / 1000) (.ok ())] else []

/-- The calls of rounds of which the first is the `made`-th. -/
def roundsCalls (made : Nat) : List Round → List (Call α)
  | [] => []
  | r :: rest => r.calls made ++ roundsCalls (made + 1) rest

/-- The calls of the `made`-th attempt and after it, and the end of the run, if no attempt
follows. -/
inductive Final (p : Policy) (made : Nat) : Except Stop α → List (Call α) → Prop where
  | returned (a : α) : Final p made (.ok a) [.acted (.ok a)]
  | cancelled : Final p made (.error .cancelled) [.acted (.error .cancelled)]
  | exhausted (f : Failure) (h : made = p.limit) :
    Final p made (.error (.failed f)) [.acted (.error (.failed f))]
  | declined (f : Failure) (h : made < p.limit) :
    Final p made (.error (.failed f)) [.acted (.error (.failed f)), .asked f (.ok false)]
  | delayless (f g : Failure) (h : made < p.limit) (hd : p.delayMs made = .error g) :
    Final p made (.error (.failed g)) [.acted (.error (.failed f)), .asked f (.ok true)]
  | untold (f : Failure) (e : Stop) (d : Binary64) (h : made < p.limit)
      (hd : p.delayMs made = .ok d) :
    Final p made (.error e)
      [.acted (.error (.failed f)), .asked f (.ok true), .told f made (.error e)]
  | unwaited (f : Failure) (e : Stop) (d : Binary64) (h : made < p.limit)
      (hd : p.delayMs made = .ok d) (hpos : 0 < d) :
    Final p made (.error e)
      [.acted (.error (.failed f)), .asked f (.ok true), .told f made (.ok ()),
        .waited (d / 1000) (.error e)]

section

variable {p : Policy} {h : Hooks s}

theorem traced_apply (call : Except Stop β → Call α) (x : Effect s β) (t : List (Call α)) (w : s) :
    traced call x (t, w) = ((x w).1, t ++ [call (x w).1], (x w).2) := rfl

theorem untraced_of_ok {x : Effect s β} {b : β} {w : s} (hx : (x w).1 = .ok b)
    (t : List (Call α)) : untraced x (t, w) = (.ok b, t, (x w).2) := Prod.ext hx rfl

/-- A notice that does not fail is followed by a record, which leaves no trace. -/
theorem told_traced (hlog : ∀ r w, (h.log r w).1 = .ok ()) {f : Failure} {made : Nat} {w w' : s}
    (htold : h.onRetry f made w = (.ok (), w')) (d : Binary64) (t : List (Call α))
    (k : Unit → Effect (List (Call α) × s) β) :
    (h.traced.onRetry f made >>= fun _ => h.traced.log (retrying f made d) >>= k) (t, w) =
      k () (t ++ [.told f made (.ok ())], (h.log (retrying f made d) w').2) := by
  have hnoted := traced_apply (α := α) (.told f made) (h.onRetry f made) t w
  rw [htold] at hnoted
  have hlogged := untraced_of_ok (α := α) (hlog (retrying f made d) w')
    (t ++ [.told f made (.ok ())])
  exact (bind_of_ok hnoted _).trans (bind_of_ok hlogged k)

/-- A pause completes the round, or it is what ends the run. -/
theorem pause_traced (hlog : ∀ r w, (h.log r w).1 = .ok ()) (f : Failure) {made : Nat}
    (hmade : made < p.limit) (t : List (Call α)) (w : s) :
    (∃ d w', p.delayMs made = .ok d ∧
      pause p h.traced f made (t ++ [.acted (.error (.failed f)), .asked f (.ok true)], w) =
        (.ok (), t ++ Round.calls made ⟨f, d⟩, w')) ∨
    ∃ e last w', Final (α := α) p made (.error e) last ∧
      pause p h.traced f made (t ++ [.acted (.error (.failed f)), .asked f (.ok true)], w) =
        (.error e, t ++ last, w') := by
  unfold pause
  cases hd : p.delayMs made with
  | error g => exact Or.inr ⟨_, _, w, .delayless f g hmade hd, rfl⟩
  | ok d =>
    rw [ofExcept_ok, pure_bind]
    cases htold : h.onRetry f made w with
    | mk r w₁ =>
      rcases r with e | u
      · have hnoted := traced_apply (α := α) (.told f made) (h.onRetry f made)
          (t ++ [.acted (.error (.failed f)), .asked f (.ok true)]) w
        rw [htold, List.append_assoc] at hnoted
        exact Or.inr ⟨e, _, w₁, .untold f e d hmade hd, bind_of_error hnoted _⟩
      · rw [told_traced hlog htold, List.append_assoc]
        generalize (h.log (retrying f made d) w₁).2 = w₂
        by_cases hpos : 0 < d
        · have hwaited := traced_apply (α := α) (.waited (d / 1000)) (h.wait (d / 1000))
            (t ++ [.acted (.error (.failed f)), .asked f (.ok true), .told f made (.ok ())]) w₂
          rw [List.append_assoc] at hwaited
          rw [if_pos hpos]
          cases hwait : h.wait (d / 1000) w₂ with
          | mk r w₃ =>
            rw [hwait] at hwaited
            rcases r with e | v
            · exact Or.inr ⟨e, _, w₃, .unwaited f e d hmade hd hpos, hwaited⟩
            · refine Or.inl ⟨d, w₃, rfl, hwaited.trans ?_⟩
              rw [Round.calls, if_pos hpos]
        · rw [if_neg hpos]
          refine Or.inl ⟨d, w₂, rfl, ?_⟩
          rw [Round.calls, if_neg hpos]
          rfl

/-- An attempt after which others are allowed ends the run, or is a round that they follow. -/
theorem attemptFrom_succ_traced (hask : ∀ f w, ∃ again, (h.shouldRetry f w).1 = .ok again)
    (hlog : ∀ r w, (h.log r w).1 = .ok ()) (action : Effect s α) {made : Nat}
    (hmade : made < p.limit) (left : Nat) (t : List (Call α)) (w : s) :
    (∃ r last w', Final p made r last ∧
      attemptFrom p h.traced (traced .acted action) made (left + 1) (t, w) = (r, t ++ last, w')) ∨
    ∃ (round : Round) (w' : s), p.delayMs made = .ok round.delayMs ∧
      attemptFrom p h.traced (traced .acted action) made (left + 1) (t, w) =
        attemptFrom p h.traced (traced .acted action) (made + 1) left
          (t ++ round.calls made, w') := by
  rw [attemptFrom, ending_bind_apply, traced_apply]
  cases action w with
  | mk r w₁ =>
    rcases r with (f | _) | a
    · obtain ⟨again, hagain⟩ := hask f w₁
      have hasked : (h.traced (α := α)).shouldRetry f (t ++ [.acted (.error (.failed f))], w₁) =
          (.ok again, t ++ [.acted (.error (.failed f)), .asked f (.ok again)],
            (h.shouldRetry f w₁).2) := by
        refine (traced_apply _ _ _ _).trans ?_
        rw [hagain, List.append_assoc]
        rfl
      dsimp only
      rw [bind_of_ok hasked]
      generalize (h.shouldRetry f w₁).2 = w₂
      cases again with
      | false =>
        have hlogged := untraced_of_ok (α := α) (hlog (declined f made) w₂)
          (t ++ [.acted (.error (.failed f)), .asked f (.ok false)])
        rw [if_neg (by simp)]
        exact Or.inl ⟨_, _, _, .declined f hmade, bind_of_ok hlogged _⟩
      | true =>
        rw [if_pos rfl]
        rcases pause_traced hlog f hmade t w₂ with ⟨d, w₃, hd, hpause⟩ | ⟨e, last, w₃, hfin, hpause⟩
        · exact Or.inr ⟨⟨f, d⟩, w₃, hd, bind_of_ok hpause _⟩
        · exact Or.inl ⟨_, last, w₃, hfin, bind_of_error hpause _⟩
    · exact Or.inl ⟨_, _, w₁, .cancelled, rfl⟩
    · exact Or.inl ⟨_, _, w₁, .returned a, rfl⟩

theorem attemptFrom_zero_traced (hlog : ∀ r w, (h.log r w).1 = .ok ()) (action : Effect s α)
    {made : Nat} (hmade : made = p.limit) (t : List (Call α)) (w : s) :
    ∃ r last w', Final p made r last ∧
      attemptFrom p h.traced (traced .acted action) made 0 (t, w) = (r, t ++ last, w') := by
  rw [attemptFrom, ending_bind_apply, traced_apply]
  cases action w with
  | mk r w₁ =>
    rcases r with (f | _) | a
    · have hlogged := untraced_of_ok (α := α) (hlog (exhausted f made) w₁)
        (t ++ [.acted (.error (.failed f))])
      exact ⟨_, _, _, .exhausted f hmade, bind_of_ok hlogged _⟩
    · exact ⟨_, _, w₁, .cancelled, rfl⟩
    · exact ⟨_, _, w₁, .returned a, rfl⟩

/-- A run that has reached an attempt makes some rounds from there on, and ends. -/
theorem attemptFrom_traced (hask : ∀ f w, ∃ again, (h.shouldRetry f w).1 = .ok again)
    (hlog : ∀ r w, (h.log r w).1 = .ok ()) (action : Effect s α) (made left : Nat)
    (hlimit : made + left = p.limit) (t : List (Call α)) (w : s) :
    ∃ (rounds : List Round) (r : Except Stop α) (last : List (Call α)) (w' : s),
      attemptFrom p h.traced (traced .acted action) made left (t, w) =
        (r, t ++ (roundsCalls made rounds ++ last), w') ∧
      Final p (made + rounds.length) r last ∧ made + rounds.length ≤ p.limit ∧
      ∀ k round, rounds[k]? = some round → p.delayMs (made + k) = .ok round.delayMs := by
  -- on the attempts left, which every round takes one of
  induction left generalizing made t w with
  | zero =>
    obtain ⟨r, last, w', hfin, hrun⟩ := attemptFrom_zero_traced hlog action (by omega) t w
    exact ⟨[], r, last, w', hrun, hfin, by simp; omega, by simp⟩
  | succ left ih =>
    have hmade : made < p.limit := by omega
    rcases attemptFrom_succ_traced hask hlog action hmade left t w with
      ⟨r, last, w', hfin, hrun⟩ | ⟨round, w₁, hd, hgo⟩
    · exact ⟨[], r, last, w', hrun, hfin, by simp; omega, by simp⟩
    · obtain ⟨rounds, r, last, w', hrun, hfin, hle, hds⟩ :=
        ih (made + 1) (by omega) (t ++ round.calls made) w₁
      have hlen : made + 1 + rounds.length = made + (round :: rounds).length := by
        rw [List.length_cons]
        omega
      refine ⟨round :: rounds, r, last, w', ?_, hlen ▸ hfin, hlen ▸ hle, ?_⟩
      · rw [hgo, hrun, roundsCalls, List.append_assoc, List.append_assoc]
      · intro k other hk
        cases k with
        | zero =>
          obtain rfl := Option.some.inj hk
          exact hd
        | succ k =>
          rw [← hds k other hk, Nat.add_assoc, Nat.add_comm 1 k]

end

/-- The failure that an attempt ended in. -/
def failure? : Except Stop α → Option Failure
  | .error (.failed f) => some f
  | _ => none

theorem actions_roundsCalls (made : Nat) (rounds : List Round) :
    (roundsCalls made rounds).filterMap (Call.action? (α := α)) =
      rounds.map fun r => .error (.failed r.failure) := by
  induction rounds generalizing made with
  | nil => rfl
  | cons r rest ih =>
    rw [roundsCalls, List.filterMap_append, ih, Round.calls]
    split <;> rfl

theorem failures_rounds (rounds : List Round) :
    (rounds.map fun r => (.error (.failed r.failure) : Except Stop α)).filterMap failure? =
      rounds.map (·.failure) := by
  induction rounds with
  | nil => rfl
  | cons r rest ih => exact congrArg (List.cons r.failure) ih

theorem questions_roundsCalls (made : Nat) (rounds : List Round) :
    (roundsCalls made rounds).filterMap (Call.question? (α := α)) = rounds.map (·.failure) := by
  induction rounds generalizing made with
  | nil => rfl
  | cons r rest ih =>
    rw [roundsCalls, List.filterMap_append, ih, Round.calls]
    split <;> rfl

theorem notices_roundsCalls (made : Nat) (rounds : List Round) :
    (roundsCalls made rounds).filterMap (Call.notice? (α := α)) =
      (rounds.map (·.failure)).zipIdx made := by
  induction rounds generalizing made with
  | nil => rfl
  | cons r rest ih =>
    rw [roundsCalls, List.filterMap_append, ih, Round.calls]
    split <;> rfl

theorem waits_roundsCalls (made : Nat) (rounds : List Round) :
    (roundsCalls made rounds).filterMap (Call.wait? (α := α)) =
      ((rounds.map (·.delayMs)).filter (0 < ·)).map (· / 1000) := by
  induction rounds generalizing made with
  | nil => rfl
  | cons r rest ih =>
    rw [roundsCalls, List.filterMap_append, ih, Round.calls, List.map_cons]
    by_cases hpos : 0 < r.delayMs
    · rw [if_pos hpos, List.filter_cons_of_pos (by simpa using hpos)]
      rfl
    · rw [if_neg hpos, List.filter_cons_of_neg (by simpa using hpos)]
      rfl

/-- The last attempt is one, and its failure is asked about unless no other attempt is allowed. -/
theorem Final.attempt {p : Policy} {made : Nat} {r : Except Stop α} {last : List (Call α)}
    (hfin : Final p made r last) : ∃ a, last.filterMap Call.action? = [a] ∧
      last.filterMap Call.question? = if made = p.limit then [] else (failure? a).toList := by
  cases hfin with
  | returned a => exact ⟨_, rfl, by split <;> rfl⟩
  | cancelled => exact ⟨_, rfl, by split <;> rfl⟩
  | exhausted f h => exact ⟨_, rfl, by rw [if_pos h]; rfl⟩
  | declined f h => exact ⟨_, rfl, by rw [if_neg (by omega)]; rfl⟩
  | delayless f g h hd => exact ⟨_, rfl, by rw [if_neg (by omega)]; rfl⟩
  | untold f e d h hd => exact ⟨_, rfl, by rw [if_neg (by omega)]; rfl⟩
  | unwaited f e d h hd hpos => exact ⟨_, rfl, by rw [if_neg (by omega)]; rfl⟩

/-- The delays of rounds are the first ones of the policy's list, if there is such a list. -/
theorem Policy.delays_eq_take {p : Policy} {rounds : List Round} (hlen : rounds.length < p.limit)
    (hds : ∀ k r, rounds[k]? = some r → p.delayMs (k + 1) = .ok r.delayMs) {ds : List Binary64}
    (h : p.delays = .ok ds) : rounds.map (·.delayMs) = ds.take rounds.length := by
  unfold Policy.delays at h
  unfold Policy.limit at hlen
  cases hv : p.attempts.value with
  | inr x =>
    rw [hv] at h
    cases h
  | inl n =>
    rw [hv] at h hlen
    obtain ⟨-, hat⟩ := Policy.delaysFrom_getElem? h
    apply List.ext_getElem?
    intro k
    rw [List.getElem?_map, List.getElem?_take]
    by_cases hk : k < rounds.length
    · rw [if_pos hk, List.getElem?_eq_getElem hk]
      obtain ⟨d, hd, hkd⟩ := hat k (by dsimp only at hlen; omega)
      have hround := hds k rounds[k] (List.getElem?_eq_getElem hk)
      rw [Nat.add_comm, hround] at hkd
      rw [hd, ← Except.ok.inj hkd]
      rfl
    · rw [if_neg hk, List.getElem?_eq_none (by omega)]
      rfl

/-- The trace of a run, whatever its action, its notices and its waits do: rounds, and the attempt
that ends the run. Every attempt but the last that is allowed is asked about when it fails, every
round has one notice, and the waits are those of the policy's delays that are positive. -/
theorem run_course (p : Policy) (h : Hooks s) (action : Effect s α) (w : s)
    (hask : ∀ f w, ∃ again, (h.shouldRetry f w).1 = .ok again)
    (hlog : ∀ r w, (h.log r w).1 = .ok ()) :
    ∃ (rounds : List Round) (last trace : List (Call α)),
      run p h.traced (traced .acted action) ([], w) =
        ((run p h action w).1, trace, (run p h action w).2) ∧
      trace = roundsCalls 1 rounds ++ last ∧
      Final p (rounds.length + 1) (run p h action w).1 last ∧
      rounds.length + 1 ≤ p.limit ∧ (∀ n, p.attempts.value = .inl n → (p.limit : Int) = n) ∧
      (trace.filterMap Call.action?).length = rounds.length + 1 ∧
      trace.filterMap Call.question? =
        ((trace.filterMap Call.action?).take (p.limit - 1)).filterMap failure? ∧
      trace.filterMap Call.notice? =
        (rounds.map (·.failure)).zipIdx 1 ++ last.filterMap Call.notice? ∧
      trace.filterMap Call.wait? =
        ((rounds.map (·.delayMs)).filter (0 < ·)).map (· / 1000) ++ last.filterMap Call.wait? ∧
      (∀ k r, rounds[k]? = some r → p.delayMs (k + 1) = .ok r.delayMs) ∧
      ∀ ds, p.delays = .ok ds → rounds.map (·.delayMs) = ds.take rounds.length := by
  have hpos := p.limit_pos
  obtain ⟨rounds, r, last, w', hrun, hfin, hle, hds⟩ := attemptFrom_traced (p := p) hask hlog action
    1 (p.limit - 1) (by omega) [] w
  have hboth := run_traced p h action w
  have hr : (run p h action w).1 = r := by
    have hfirst := congrArg Prod.fst hboth
    exact hfirst.symm.trans (congrArg Prod.fst hrun)
  have htrace : (run p h.traced (traced .acted action) ([], w)).2.1 =
      roundsCalls 1 rounds ++ last :=
    congrArg (·.2.1) hrun
  rw [htrace] at hboth
  rw [Nat.add_comm] at hfin hle
  have hds' : ∀ k r, rounds[k]? = some r → p.delayMs (k + 1) = .ok r.delayMs := by
    intro k r hk
    rw [Nat.add_comm]
    exact hds k r hk
  obtain ⟨a, ha, hq⟩ := hfin.attempt
  refine ⟨rounds, last, _, hboth, rfl, hr ▸ hfin, hle, fun n => Policy.limit_of_whole, ?_, ?_, ?_,
    ?_, hds', fun ds => Policy.delays_eq_take hle hds'⟩
  · rw [List.filterMap_append, actions_roundsCalls, ha]
    simp
  · rw [List.filterMap_append, List.filterMap_append, actions_roundsCalls, questions_roundsCalls,
      ha, hq]
    by_cases hlast : rounds.length + 1 = p.limit
    · -- all attempts are used up, and the last of them is not asked about
      rw [if_pos hlast, List.take_left' (by simp; omega), failures_rounds, List.append_nil]
    · rw [if_neg hlast, List.take_of_length_le (by simp; omega), List.filterMap_append,
        failures_rounds]
      cases a with
      | ok a => rfl
      | error e => cases e <;> rfl
  · rw [List.filterMap_append, notices_roundsCalls]
  · rw [List.filterMap_append, waits_roundsCalls]

namespace Untold

def failing : Effect Unit Unit := Effect.fail (.timeout "model" "30000")

/-- Every failure is to be retried, but to tell of a retry fails. -/
def hooks : Hooks Unit where
  shouldRetry _ := Pure.pure true
  onRetry _ _ := Effect.fail (.foreign (.runtime "no retry"))
  wait _ := Pure.pure ()
  log _ := Pure.pure ()

/-- A notice that fails ends the run, though two more attempts are allowed. -/
theorem run_course_untold : ∃ last : List (Call Unit),
    run .standard hooks.traced (traced .acted failing) ([], ()) =
      (.error (.failed (.foreign (.runtime "no retry"))), last, ()) ∧
    Final .standard 1 (.error (.failed (.foreign (.runtime "no retry")))) last ∧
    last.filterMap Call.notice? = [(.timeout "model" "30000", 1)] := by
  obtain ⟨rounds, last, trace, hrun, htrace, hfin, -, -, hactions, -, -, -, -, -⟩ :=
    run_course .standard hooks failing () (fun _ _ => ⟨true, rfl⟩) fun _ _ => rfl
  have hcalls : trace = [.acted (.error (.failed (.timeout "model" "30000"))),
      .asked (.timeout "model" "30000") (.ok true),
      .told (.timeout "model" "30000") 1 (.error (.failed (.foreign (.runtime "no retry"))))] :=
    congrArg (·.2.1) hrun.symm
  -- there was one attempt, so there was no round before it
  rw [hcalls] at hactions
  obtain rfl : rounds = [] := List.length_eq_zero_iff.1 (Nat.succ.inj hactions).symm
  obtain rfl : trace = last := htrace
  refine ⟨trace, hrun, hfin, ?_⟩
  rw [hcalls]
  rfl

end Untold

end ResilientCalls.Retry
