import Mathlib.Data.Nat.Basic
import Mathlib.Order.Basic
import ResilientCalls.Number

namespace ResilientCalls

namespace Number

variable {a b : Number} {m n : Int}

theorem compare?_of_values (ha : a.value = .inl m) (hb : b.value = .inl n) :
    a.compare? b = (whole m).compare? (whole n) := by
  rw [compare?, compare?, ha, hb]
  rfl

theorem reaches_of_values (ha : a.value = .inl m) (hb : b.value = .inl n) :
    a.reaches b = decide (n ≤ m) := by
  rw [← reaches_whole, reaches, reaches, exceeds, exceeds, equals, equals,
    compare?_of_values ha hb]

theorem isBelow_of_values (ha : a.value = .inl m) (hb : b.value = .inl n) :
    a.isBelow b = decide (m < n) := by
  rw [← isBelow_whole, isBelow, isBelow, compare?_of_values ha hb]

theorem isBelow_one (h : 1 ≤ n) : (whole n).isBelow 1 = false := by
  rw [isBelow_of_values (n := 1) rfl rfl, decide_eq_false_iff_not]
  omega

theorem isBelow_zero (h : 0 ≤ n) : (whole n).isBelow 0 = false := by
  rw [isBelow_of_values (n := 0) rfl rfl, decide_eq_false_iff_not]
  omega

theorem next_whole (m : Int) : (whole m).next = whole (m + 1) := rfl

theorem previous_whole_succ (k : Nat) : (whole (k + 1)).previous = whole k := by
  cases k with
  | zero => rfl
  | succ k =>
    have h : exceeds (whole ((k + 1 : Nat) + 1 - 1)) 0 = true := by
      rw [show (0 : Number) = whole 0 from rfl, exceeds_whole]
      simp only [decide_eq_true_eq]
      omega
    simp only [previous, value, h, if_true]
    congr 1
    omega

end Number

namespace Binary64

theorem compareInt?_zero {x : Binary64} (h : x.compareInt? 1 ≠ some .lt) :
    x.compareInt? 0 = none ∨ x.compareInt? 0 = some .gt := by
  unfold compareInt? at h ⊢
  cases hv : x.value with
  | nan => exact Or.inl rfl
  | infinite negative =>
    rw [hv] at h
    cases negative with
    | true => simp at h
    | false => exact Or.inr rfl
  | finite negative m e =>
    rw [hv] at h
    right
    dsimp only at h ⊢
    generalize (if negative = true then -(m : Int) else m) = signed at h ⊢
    by_cases he : 0 ≤ e
    · rw [if_pos he] at h ⊢
      have hle : 1 ≤ signed * Nat.pow 2 e.toNat := by
        simpa [Int.compare_eq_lt] using h
      have hgt : 0 < signed * Nat.pow 2 e.toNat := by omega
      simpa [Int.compare_eq_gt] using hgt
    · rw [if_neg he] at h ⊢
      have hle : (1 : Int) * Nat.pow 2 (-e).toNat ≤ signed := by
        simpa [Int.compare_eq_lt] using h
      have hpos : (0 : Int) < Nat.pow 2 (-e).toNat := by
        exact_mod_cast Nat.pow_pos (by omega : 0 < 2)
      have hgt : 0 < signed := by omega
      simpa [Int.compare_eq_gt] using hgt

end Binary64

theorem Number.zero_reaches_eq_false {a : Number} (h : a.isBelow 1 = false) :
    (0 : Number).reaches a = false := by
  cases hv : a.value with
  | inl n =>
    rw [isBelow_of_values hv (n := 1) rfl] at h
    rw [reaches_of_values (m := 0) rfl hv]
    simp only [decide_eq_false_iff_not] at h ⊢
    omega
  | inr x =>
    have hx : x.compareInt? 1 ≠ some .lt := by
      have hc : a.compare? 1 = x.compareInt? 1 := by
        rw [compare?, hv]
        rfl
      simpa [isBelow, hc] using h
    have hc : (0 : Number).compare? a = (x.compareInt? 0).map Ordering.swap := by
      rw [compare?, hv]
      rfl
    rcases Binary64.compareInt?_zero hx with h₀ | h₀ <;> simp [reaches, exceeds, equals, hc, h₀]

theorem Binary64.ceiling?_pos {x : Binary64} (h : x.compareInt? 1 ≠ some .lt) {n : Int}
    (hn : x.ceiling? = some n) : 1 ≤ n := by
  unfold compareInt? at h
  unfold ceiling? at hn
  cases hv : x.value with
  | nan => simp [hv] at hn
  | infinite negative => simp [hv] at hn
  | finite negative m e =>
    rw [hv] at h hn
    dsimp only at h hn
    generalize (if negative = true then -(m : Int) else m) = signed at h hn
    obtain rfl := Option.some.inj hn
    by_cases he : 0 ≤ e
    · rw [if_pos he] at h ⊢
      simpa [Int.compare_eq_lt] using h
    · rw [if_neg he] at h ⊢
      have hpos : (0 : Int) < Nat.pow 2 (-e).toNat := by
        exact_mod_cast Nat.pow_pos (by omega : 0 < 2)
      have hle : (1 : Int) * Nat.pow 2 (-e).toNat ≤ signed := by
        simpa [Int.compare_eq_lt] using h
      have hquot : -signed / Nat.pow 2 (-e).toNat < 0 := by
        apply Int.ediv_neg_of_neg_of_pos _ hpos
        omega
      omega

end ResilientCalls
