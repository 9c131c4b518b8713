import ResilientCalls.Proofs.Number
import ResilientCalls.Retry.Policy

namespace ResilientCalls.Retry.Policy

theorem limit_pos (p : Policy) : 0 < p.limit := by
  have hb := p.attempts_inRange
  unfold limit
  cases hv : p.attempts.value with
  | inl n =>
    rw [Number.isBelow_of_values hv (n := 1) rfl] at hb
    simp only [decide_eq_false_iff_not] at hb
    dsimp only
    omega
  | inr x =>
    have hx : x.compareInt? 1 ≠ some .lt := by
      have hc : p.attempts.compare? 1 = x.compareInt? 1 := by
        rw [Number.compare?, hv]
        rfl
      simpa [Number.isBelow, hc] using hb
    dsimp only
    cases hn : x.ceiling? with
    | none => exact Nat.pow_pos (by omega)
    | some n =>
      have hpos := Binary64.ceiling?_pos hx hn
      show 0 < n.toNat
      omega

/-- A policy with a whole number of attempts allows that many. -/
theorem limit_of_whole {p : Policy} {n : Int} (h : p.attempts.value = .inl n) :
    (p.limit : Int) = n := by
  have hpos := p.limit_pos
  unfold limit at hpos ⊢
  rw [h] at hpos ⊢
  dsimp only at hpos ⊢
  omega

theorem delaysFrom_getElem? {p : Policy} {k n : Nat} {ds : List Binary64}
    (hds : p.delaysFrom k n = .ok ds) :
    ds.length = n ∧ ∀ i, i < n → ∃ d, ds[i]? = some d ∧ p.delayMs (k + i) = .ok d := by
  induction n generalizing k ds with
  | zero =>
    obtain rfl := Except.ok.inj hds
    exact ⟨rfl, by simp⟩
  | succ n ih =>
    unfold delaysFrom at hds
    cases hd : p.delayMs k with
    | error f =>
      rw [hd] at hds
      cases hds
    | ok d =>
      cases hrest : p.delaysFrom (k + 1) n with
      | error f =>
        rw [hd, hrest] at hds
        cases hds
      | ok rest =>
        rw [hd, hrest] at hds
        obtain rfl : d :: rest = ds := Except.ok.inj hds
        obtain ⟨hlen, hat⟩ := ih hrest
        refine ⟨by simp [hlen], fun i hi => ?_⟩
        cases i with
        | zero => exact ⟨d, rfl, hd⟩
        | succ i =>
          obtain ⟨e, he, hke⟩ := hat i (by omega)
          exact ⟨e, he, by rw [← hke]; congr 1; omega⟩

end ResilientCalls.Retry.Policy
