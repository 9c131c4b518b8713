import Mathlib.Data.List.Infix
import ResilientCalls.Proofs.Json.Nesting
import ResilientCalls.Proofs.StringMap.Balance

namespace ResilientCalls

namespace Json

open StringMap (Scan tick)

namespace Reader

variable {r r' : Reader} {p : CodePoint}

/-- What a scan for a balanced object sees of a reader. -/
def scan (r : Reader) : Scan := ⟨r.nesting.count .object, r.mode.context⟩

theorem scan_step (hs : r.Sane) (h : r.step p = .ok r') : r.scan.step p = r'.scan := by
  obtain ⟨hturn, -⟩ := turn_step hs h
  cases hturn with
  | opened c code before after nesting root =>
    rw [scan, scan, before, after, nesting, code]
    cases c <;> simp [Scan.step, Container.opening]
  | closed c v code before after nesting kind root =>
    rw [scan, scan, before, after, nesting, code]
    cases c <;> simp [Scan.step, Container.closing]
  | kept nesting scan unfenced unbroken root =>
    rw [Reader.scan, Reader.scan, nesting]
    exact scan _

theorem run_cons {xs : CodePoints} (h : r.run (p :: xs) = .ok r') :
    ∃ r₁, r.step p = .ok r₁ ∧ r₁.run xs = .ok r' := by
  rw [run] at h
  split at h
  · exact ⟨_, ‹_›, h⟩
  · cases h

theorem run_append {xs ys : CodePoints} (h : r.run (xs ++ ys) = .ok r') :
    ∃ r₁, r.run xs = .ok r₁ ∧ r₁.run ys = .ok r' := by
  induction xs generalizing r with
  | nil => exact ⟨r, rfl, h⟩
  | cons p xs ih =>
    obtain ⟨r₁, hstep, hrun⟩ := run_cons h
    obtain ⟨r₂, hxs, hys⟩ := ih hrun
    exact ⟨r₂, by rw [run, hstep]; exact hxs, hys⟩

theorem sane_run {xs : CodePoints} (hs : r.Sane) (h : r.run xs = .ok r') : r'.Sane := by
  induction xs generalizing r with
  | nil => exact Except.ok.inj h ▸ hs
  | cons p xs ih =>
    obtain ⟨r₁, hstep, hrun⟩ := run_cons h
    exact ih (turn_step hs hstep).2 hrun

theorem step_finished {v : Document} (hm : r.mode = .finished v) (h : r.step p = .ok r') :
    isSpace p.toChar = true ∧ r'.mode = .finished v := by
  simp only [step, stepBetween, hm] at h
  split at h
  · rename_i r₁ hr₁
    split at hr₁
    · obtain rfl := Except.ok.inj hr₁
      obtain rfl := Except.ok.inj h
      exact ⟨‹_›, hm⟩
    · cases hr₁
  · cases h

theorem run_finished {xs : CodePoints} {v : Document} (hm : r.mode = .finished v)
    (h : r.run xs = .ok r') : ∀ q ∈ xs, isSpace q.toChar = true := by
  induction xs generalizing r with
  | nil => exact fun q hq => absurd hq List.not_mem_nil
  | cons p xs ih =>
    obtain ⟨r₁, hstep, hrun⟩ := run_cons h
    obtain ⟨hp, hm₁⟩ := step_finished hm hstep
    rintro q (_ | ⟨_, hq⟩)
    · exact hp
    · exact ih hm₁ hrun q hq

/-- The value that a reader is at, once it has begun, is such a container, or none. -/
inductive Rooted (k : Option Container) (r : Reader) : Prop where
  | inside (c : Container) (kind : k = some c) (root : r.nesting.getLast? = some c)
  | scalar (kind : k = none) (nesting : r.nesting = []) (begun : r.mode ≠ .value)
      (unended : ∀ v, r.mode ≠ .finished v)
  | finished (v : Document) (mode : r.mode = .finished v) (kind : v.container? = k)

theorem Rooted.step {k : Option Container} (hr : Rooted k r) (hs : r.Sane)
    (h : r.step p = .ok r') : Rooted k r' := by
  obtain ⟨hturn, -⟩ := turn_step hs h
  cases hr with
  | inside c kind root =>
    cases hturn with
    | opened d _ _ _ nesting _ =>
      refine .inside c kind ?_
      rw [nesting, List.getLast?_cons, root]
      rfl
    | closed d v _ _ _ nesting hv hroot =>
      rw [nesting] at root
      cases hrest : r'.nesting with
      | nil =>
        rw [hrest] at root
        obtain rfl := Option.some.inj root
        exact .finished v (hroot hrest) (hv.trans kind.symm)
      | cons e es =>
        rw [hrest] at root
        exact .inside c kind (by rw [hrest]; exact root)
    | kept nesting _ _ _ _ => exact .inside c kind (nesting ▸ root)
  | scalar kind hnil begun unended =>
    cases hturn with
    | opened d _ _ _ _ hroot => exact absurd (hroot hnil) begun
    | closed d v _ _ _ nesting _ _ =>
      rw [hnil] at nesting
      cases nesting
    | kept nesting _ _ _ hroot =>
      obtain ⟨hvalue, hfinished⟩ := hroot hnil
      by_cases hend : ∃ v, r'.mode = .finished v
      · obtain ⟨v, hv⟩ := hend
        exact .finished v hv (((hfinished v hv).resolve_left (unended v)).trans kind.symm)
      · exact .scalar kind (nesting.trans hnil) (fun hv => begun (hvalue hv).1)
          fun v hv => hend ⟨v, hv⟩
  | finished v mode kind => exact .finished v (step_finished mode h).2 kind

/-- The first character that is no blank tells what kind of value is read. -/
theorem rooted_of_step (hs : r.Sane) (hm : r.mode = .value) (hnil : r.nesting = [])
    (hp : isSpace p.toChar = false) (h : r.step p = .ok r') :
    ∃ k, Rooted k r' ∧ ∀ c, k = some c → p = c.opening := by
  obtain ⟨hturn, -⟩ := turn_step hs h
  cases hturn with
  | opened c code _ _ nesting _ =>
    refine ⟨some c, .inside c rfl (by rw [nesting, hnil]; rfl), fun d hd => ?_⟩
    rw [← Option.some.inj hd, code]
  | closed c v _ _ _ nesting _ _ =>
    rw [hnil] at nesting
    cases nesting
  | kept nesting _ _ _ hroot =>
    obtain ⟨hvalue, hfinished⟩ := hroot hnil
    refine ⟨none, ?_, fun c hc => by cases hc⟩
    by_cases hend : ∃ v, r'.mode = .finished v
    · obtain ⟨v, hv⟩ := hend
      refine .finished v hv ((hfinished v hv).resolve_left fun hv => ?_)
      rw [hm] at hv
      cases hv
    · refine .scalar rfl (nesting.trans hnil) (fun hv => ?_) fun v hv => hend ⟨v, hv⟩
      rw [(hvalue hv).2] at hp
      cases hp

theorem Rooted.run {k : Option Container} {xs : CodePoints} (hr : Rooted k r) (hs : r.Sane)
    (h : r.run xs = .ok r') : Rooted k r' := by
  induction xs generalizing r with
  | nil => exact Except.ok.inj h ▸ hr
  | cons p xs ih =>
    obtain ⟨r₁, hstep, hrun⟩ := run_cons h
    exact ih (hr.step hs hstep) (turn_step hs hstep).2 hrun

theorem finished_of_result {v : Document} (hm : ∀ n, r.mode ≠ .number n) (h : r.result = .ok v) :
    r.mode = .finished v := by
  unfold result at h
  cases hmode : r.mode with
  | number n => exact absurd hmode (hm n)
  | finished j =>
    simp only [hmode] at h
    rw [Except.ok.inj h]
  | _ =>
    simp only [hmode] at h
    cases h

theorem result_of_endNumber {n : Numeral} (hm : r.mode = .number n) (h : r.endNumber n = .ok r') :
    r.result = r'.result := by
  have hr' : ∀ m, r'.mode ≠ .number m := by
    obtain ⟨j, -, rfl⟩ := eq_of_endNumber h
    exact complete_ne_number j r.stack
  unfold result
  simp only [hm, h]

theorem eq_of_result {v : Document} (h : r.result = .ok v) :
    r.mode = .finished v ∨ ∃ n, r.mode = .number n ∧ r.stack = [] ∧ n.value = .ok v := by
  by_cases hm : ∃ n, r.mode = .number n
  · obtain ⟨n, hm⟩ := hm
    cases hend : r.endNumber n with
    | error e =>
      simp only [result, hm, hend] at h
      cases h
    | ok r₁ =>
      rw [result_of_endNumber hm hend] at h
      obtain ⟨j, hj, rfl⟩ := eq_of_endNumber hend
      have hfinished := finished_of_result (complete_ne_number j r.stack) h
      obtain ⟨rfl, hstack⟩ := eq_of_complete_finished hfinished
      exact .inr ⟨n, hm, hstack, hj⟩
  · exact .inl (finished_of_result (not_exists.1 hm) h)

/-- A value that ends with the text is of the kind that was begun; a container has ended before. -/
theorem Rooted.of_result {k : Option Container} (hr : Rooted k r) (hs : r.Sane) {v : Document}
    (h : r.result = .ok v) : v.container? = k ∧ (k ≠ none → r.mode = .finished v) := by
  have hend := eq_of_result h
  have hnil : r.nesting = [] := by
    rcases hend with hm | ⟨n, hm, hstack, -⟩
    · rw [Sane, hm] at hs
      simp [nesting, hm, hs, Mode.container?]
    · simp [nesting, hm, hstack, Mode.container?]
  cases hr with
  | inside c kind root =>
    rw [hnil] at root
    cases root
  | scalar kind _ _ unended =>
    rcases hend with hm | ⟨n, hm, -, hv⟩
    · exact absurd hm (unended v)
    · exact ⟨(container?_of_value hv).trans kind.symm, absurd kind⟩
  | finished u mode kind =>
    rcases hend with hm | ⟨n, hm, -, -⟩
    · rw [mode] at hm
      obtain rfl := Mode.finished.inj hm
      exact ⟨kind, fun _ => mode⟩
    · rw [mode] at hm
      cases hm

theorem step_tick_ne_ok (hs : r.Sane) (hout : r.mode.context = .outside) :
    r.step tick ≠ .ok r' := by
  intro h
  obtain ⟨hturn, -⟩ := turn_step hs h
  cases hturn with
  | opened c code _ _ _ _ => cases c <;> cases code
  | closed c _ code _ _ _ _ _ => cases c <;> cases code
  | kept _ _ unfenced _ _ => exact unfenced hout rfl

/-- Inside a string, what is read without a quote stays inside it, and has no line break. -/
theorem step_within (hs : r.Sane) (hin : r.mode.context ≠ .outside) (hp : p ≠ '"')
    (h : r.step p = .ok r') : p ≠ '\n' ∧ r'.mode.context ≠ .outside := by
  obtain ⟨hturn, -⟩ := turn_step hs h
  cases hturn with
  | opened _ _ before _ _ _ => exact absurd before hin
  | closed _ _ _ before _ _ _ _ => exact absurd before hin
  | kept _ scan _ unbroken _ =>
    refine ⟨unbroken hin, ?_⟩
    have hcontext : (Scan.step ⟨0, r.mode.context⟩ p).context = r'.mode.context := by rw [scan 0]
    rw [← hcontext]
    cases hc : r.mode.context with
    | outside => exact absurd hc hin
    | quoted =>
      by_cases hb : p = '\\'
      · simp [Scan.step, hb]
      · simp [Scan.step, hb, hp]
    | escaped => simp [Scan.step]

theorem run_within_ne_ok {xs ys : CodePoints} (hs : r.Sane) (hin : r.mode.context ≠ .outside)
    (hx : .char '"' ∉ xs) : r.run (xs ++ .char '\n' :: ys) ≠ .ok r' := by
  intro h
  induction xs generalizing r with
  | nil =>
    obtain ⟨r₁, hstep, -⟩ := run_cons h
    exact (step_within hs hin (by decide) hstep).1 rfl
  | cons p xs ih =>
    obtain ⟨r₁, hstep, hrun⟩ := run_cons h
    rw [List.mem_cons, not_or] at hx
    exact ih (turn_step hs hstep).2 (step_within hs hin (Ne.symm hx.1) hstep).2 hx.2 hrun

/-- No text reads in which a line ends after a backquote, without a quote between them: neither may
stand outside a string, and no line ends inside one. -/
theorem run_tick_ne_ok {xs ys : CodePoints} (hs : r.Sane) (hx : .char '"' ∉ xs) :
    r.run (tick :: xs ++ .char '\n' :: ys) ≠ .ok r' := by
  intro h
  obtain ⟨r₁, hstep, hrun⟩ := run_cons h
  have hin : r.mode.context ≠ .outside := fun hout => step_tick_ne_ok hs hout hstep
  exact run_within_ne_ok (turn_step hs hstep).2 (step_within hs hin (by decide) hstep).2 hx hrun

/-- A scan that follows the reader of an object finds its end where the reader does. -/
theorem closing?_of_run {xs rest done : CodePoints} (hs : r.Sane)
    (hr : r.nesting.getLast? = some .object) (hp : isSpace p.toChar = false)
    (h : r.run (xs ++ [p]) = .ok r') (hnil : r'.nesting = []) :
    StringMap.closing? done r.scan (xs ++ p :: rest) = some (done.reverse ++ (xs ++ [p])) := by
  induction xs generalizing r done with
  | nil =>
    obtain ⟨r₁, hstep, hrun⟩ := run_cons h
    obtain rfl := Except.ok.inj hrun
    rw [List.nil_append, StringMap.closing?, scan_step hs hstep]
    simp [scan, hnil]
  | cons q xs ih =>
    obtain ⟨r₁, hstep, hrun⟩ := run_cons h
    have hs₁ := (turn_step hs hstep).2
    have hrooted : Rooted (some .object) r₁ := (Rooted.inside _ rfl hr).step hs hstep
    rw [List.cons_append, StringMap.closing?, scan_step hs hstep]
    cases hrooted with
    | inside c kind root =>
      obtain rfl := Option.some.inj kind
      have hdepth : r₁.scan.depth ≠ 0 := by
        have hmem := List.mem_of_getLast? root
        exact (List.count_pos_iff.2 hmem).ne'
      rw [if_neg hdepth, ih hs₁ root hrun]
      simp
    | scalar kind => cases kind
    | finished v mode kind =>
      have hspace := run_finished mode hrun p (by simp)
      rw [hspace] at hp
      cases hp

/-- The reader of an object, after its opening brace. -/
def begun [Depth] : Reader := ⟨1, [], Depth.most - 1, .firstName⟩

theorem start_step [Depth] : start.step (.char '\x7b') = .ok begun := by
  have hroom : 2 ≤ Depth.most := Depth.two_le
  rw [start, begun]
  generalize Depth.most = most at hroom
  cases most with
  | zero => omega
  | succ room => rfl

theorem start_sane [Depth] : start.Sane := trivial

theorem begun_sane [Depth] : begun.Sane := trivial

theorem begun_rooted [Depth] : Rooted (some .object) begun := .inside .object rfl rfl

theorem Rooted.nesting_eq_nil {c : Container} (hr : Rooted (some c) r) (hs : r.Sane) {v : Document}
    (h : r.result = .ok v) : r.nesting = [] := by
  have hm := (hr.of_result hs h).2 (Option.some_ne_none c)
  rw [Sane, hm] at hs
  simp [nesting, hm, hs, Mode.container?]

end Reader

open Reader

variable [Depth]

theorem eq_of_decode {ps : CodePoints} {v : Document} (h : decode ps = .ok v) :
    ∃ r, start.run ps = .ok r ∧ r.result = .ok v := by
  unfold decode at h
  split at h
  · cases h
  · unfold read at h
    split at h
    · exact ⟨_, ‹_›, h⟩
    · cases h

/-- The text of a container begins with its opening bracket. -/
theorem opening_of_decode {p : CodePoint} {ps : CodePoints} {v : Document} {c : Container}
    (hp : isSpace p.toChar = false) (h : decode (p :: ps) = .ok v) (hv : v.container? = some c) :
    p = c.opening := by
  obtain ⟨r, hrun, hresult⟩ := eq_of_decode h
  obtain ⟨r₁, hstep, hrun⟩ := run_cons hrun
  obtain ⟨k, hrooted, hk⟩ := rooted_of_step start_sane rfl rfl hp hstep
  have hs₁ := (turn_step start_sane hstep).2
  have hkind := ((hrooted.run hs₁ hrun).of_result (sane_run hs₁ hrun) hresult).1
  exact hk c (hkind.symm.trans hv)

section Object

variable {ps : CodePoints} {p : CodePoint} {v : Document}

theorem run_of_decode (h : decode (.char '\x7b' :: ps) = .ok v) :
    ∃ r, begun.run ps = .ok r ∧ r.result = .ok v := by
  obtain ⟨r, hrun, hresult⟩ := eq_of_decode h
  obtain ⟨r₁, hstep, hrun⟩ := run_cons hrun
  rw [start_step] at hstep
  obtain rfl := Except.ok.inj hstep
  exact ⟨r, hrun, hresult⟩

/-- No text of an object goes on after another one. -/
theorem decode_ne_ok_of_prefix {qs : CodePoints} {u : Document} (hp : isSpace p.toChar = false)
    (h : decode (.char '\x7b' :: (ps ++ [p])) = .ok v) (hq : qs <+: .char '\x7b' :: ps) :
    decode qs ≠ .ok u := by
  intro hu
  rcases List.prefix_cons_iff.1 hq with rfl | ⟨qs, rfl, rest, rfl⟩
  · cases hu
  · obtain ⟨r, hrun, -⟩ := run_of_decode h
    obtain ⟨r₁, hbefore, hresult⟩ := run_of_decode hu
    rw [List.append_assoc] at hrun
    obtain ⟨r₂, hbefore', hafter⟩ := run_append hrun
    rw [hbefore] at hbefore'
    obtain rfl := Except.ok.inj hbefore'
    have hrooted := begun_rooted.run begun_sane hbefore
    have hm := (hrooted.of_result (sane_run begun_sane hbefore) hresult).2 (by simp)
    rw [run_finished hm hafter p (by simp)] at hp
    cases hp

/-- The text of an object is found in a text in which no brace is before it. -/
theorem balancedObject?_of_decode {before after : CodePoints} (hp : isSpace p.toChar = false)
    (h : decode (.char '\x7b' :: (ps ++ [p])) = .ok v) (hbefore : .char '\x7b' ∉ before) :
    StringMap.balancedObject? (before ++ (.char '\x7b' :: (ps ++ [p])) ++ after) =
      some (.char '\x7b' :: (ps ++ [p])) := by
  obtain ⟨r, hrun, hresult⟩ := run_of_decode h
  have hnil := (begun_rooted.run begun_sane hrun).nesting_eq_nil (sane_run begun_sane hrun) hresult
  rw [List.append_assoc, StringMap.balancedObject?_append hbefore (by rfl), List.cons_append,
    List.append_assoc]
  exact closing?_of_run begun_sane rfl hp hrun hnil

end Object

/-- No text reads in which a line ends after a backquote without a quote between them. -/
theorem decode_tick_ne_ok {ps xs ys : CodePoints} {v : Document} (hx : .char '"' ∉ xs) :
    decode (ps ++ (tick :: xs ++ .char '\n' :: ys)) ≠ .ok v := by
  intro h
  obtain ⟨r, hrun, -⟩ := eq_of_decode h
  obtain ⟨r₁, hbefore, hrun⟩ := run_append hrun
  exact run_tick_ne_ok (sane_run start_sane hbefore) hx hrun

end Json

end ResilientCalls
