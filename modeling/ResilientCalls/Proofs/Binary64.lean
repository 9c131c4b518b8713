import Mathlib.Algebra.Order.Floor.Semifield
import Mathlib.Data.Rat.Floor
import Mathlib.Order.Compare
import ResilientCalls.Number

namespace ResilientCalls

namespace Binary64

/-- The exact value of a finite double. -/
def rational? (x : Binary64) : Option ℚ :=
  match x.value with
  | .finite negative m e => some ((if negative then -(m : ℚ) else m) * 2 ^ e)
  | _ => none

theorem exists_of_rational {x : Binary64} {q : ℚ} (h : x.rational? = some q) :
    ∃ negative m e, x.value = .finite negative m e ∧
      q = (if negative then -(m : Int) else m : Int) * 2 ^ e := by
  unfold rational? at h
  cases hv : x.value with
  | nan => simp [hv] at h
  | infinite negative => simp [hv] at h
  | finite negative m e =>
    rw [hv] at h
    refine ⟨negative, m, e, rfl, ?_⟩
    rw [← Option.some.inj h]
    split <;> push_cast <;> rfl

theorem mul_zpow_of_nonneg (signed : Int) {e : Int} (he : 0 ≤ e) :
    (signed : ℚ) * 2 ^ e = ((signed * Nat.pow 2 e.toNat : Int) : ℚ) := by
  conv_lhs => rw [← Int.toNat_of_nonneg he, zpow_natCast]
  simp [Nat.pow_eq]

theorem mul_zpow_of_neg (signed : Int) {e : Int} (he : ¬ 0 ≤ e) :
    (signed : ℚ) * 2 ^ e = (signed : ℚ) / (Nat.pow 2 (-e).toNat : Nat) := by
  have hneg : e = -((-e).toNat : Int) := by omega
  conv_lhs => rw [hneg, zpow_neg, zpow_natCast]
  simp [Nat.pow_eq, div_eq_mul_inv]

theorem ceiling?_of_rational {x : Binary64} {q : ℚ} (h : x.rational? = some q) :
    x.ceiling? = some ⌈q⌉ := by
  obtain ⟨negative, m, e, hv, rfl⟩ := exists_of_rational h
  unfold ceiling?
  rw [hv]
  dsimp only
  generalize (if negative = true then -(m : Int) else m) = signed
  by_cases he : 0 ≤ e
  · -- a whole number is its own ceiling
    rw [if_pos he, mul_zpow_of_nonneg signed he, Int.ceil_intCast]
  · rw [if_neg he, mul_zpow_of_neg signed he, Rat.ceil_intCast_div_natCast]

theorem compareInt?_of_rational {x : Binary64} {q : ℚ} (h : x.rational? = some q) (n : Int) :
    x.compareInt? n = some (compare q n) := by
  obtain ⟨negative, m, e, hv, rfl⟩ := exists_of_rational h
  unfold compareInt?
  rw [hv]
  dsimp only
  generalize (if negative = true then -(m : Int) else m) = signed
  by_cases he : 0 ≤ e
  · rw [if_pos he, mul_zpow_of_nonneg signed he, ← cmp_eq_compare, ← cmp_eq_compare,
      Int.cast_strictMono.cmp_map_eq]
  · have hpos : (0 : ℚ) < (Nat.pow 2 (-e).toNat : Nat) := by
      exact_mod_cast Nat.pow_pos (by omega : 0 < 2)
    have hmono : StrictMono fun k : Int => (k : ℚ) / (Nat.pow 2 (-e).toNat : Nat) :=
      fun a b hab => div_lt_div_of_pos_right (Int.cast_lt.2 hab) hpos
    have hn : (n : ℚ) = ((n * Nat.pow 2 (-e).toNat : Int) : ℚ) / (Nat.pow 2 (-e).toNat : Nat) := by
      rw [eq_div_iff hpos.ne']
      push_cast
      rfl
    rw [if_neg he, mul_zpow_of_neg signed he, hn, ← cmp_eq_compare, ← cmp_eq_compare]
    exact congrArg some (hmono.cmp_map_eq signed _).symm

theorem truncate?_of_rational {x : Binary64} {q : ℚ} (h : x.rational? = some q) (hq : 0 ≤ q) :
    x.truncate? = some ⌊q⌋₊ := by
  obtain ⟨negative, m, e, hv, rfl⟩ := exists_of_rational h
  have hpow : (0 : ℚ) < 2 ^ e := zpow_pos (by norm_num) e
  have hsign : (0 : Int) ≤ if negative then -(m : Int) else m :=
    Int.cast_nonneg_iff.1 (nonneg_of_mul_nonneg_left hq hpow)
  have hm : (if negative then -(m : Int) else m) = m := by
    cases negative with
    | false => rfl
    | true =>
      simp only [if_true] at hsign ⊢
      omega
  have hn : (if 0 ≤ e then m * Nat.pow 2 e.toNat else m / Nat.pow 2 (-e).toNat) =
      ⌊((m : Int) : ℚ) * 2 ^ e⌋₊ := by
    by_cases he : 0 ≤ e
    · rw [if_pos he, mul_zpow_of_nonneg _ he]
      exact (Nat.floor_natCast _).symm
    · rw [if_neg he, mul_zpow_of_neg _ he]
      exact (Nat.floor_div_eq_div m _).symm
  unfold truncate?
  rw [hv, hm, ← hn]
  cases negative with
  | false => rfl
  | true =>
    -- a negative zero is zero
    simp only [if_true] at hm
    obtain rfl : m = 0 := by omega
    simp

theorem truncate?_of_none {x : Binary64} (h : x.rational? = none) : x.truncate? = none := by
  unfold rational? at h
  unfold truncate?
  cases hv : x.value with
  | nan => rfl
  | infinite negative => rfl
  | finite negative m e => simp [hv] at h

/-- The sign of a finite double is its first bit, and it is zero if the others are. -/
theorem bits_of_finite {x : Binary64} {negative : Bool} {m : Nat} {e : Int}
    (h : x.value = .finite negative m e) :
    (negative = true ↔ x.bits.toNat / 2 ^ 63 = 1) ∧ (m = 0 ↔ x.bits.toNat % 2 ^ 63 = 0) := by
  simp only [value, Nat.pow_eq] at h
  split at h
  · split at h <;> cases h
  · split at h <;> simp only [Value.finite.injEq] at h <;> obtain ⟨rfl, rfl, -⟩ := h
    · refine ⟨decide_eq_true_iff, ?_⟩
      omega
    · refine ⟨decide_eq_true_iff, ?_⟩
      omega

theorem lt_zero_iff_of_rational {x : Binary64} {q : ℚ} (h : x.rational? = some q) :
    x < 0 ↔ q < 0 := by
  obtain ⟨negative, m, e, hv, rfl⟩ := exists_of_rational h
  obtain ⟨hsign, hm⟩ := bits_of_finite hv
  have hpow : (0 : ℚ) < 2 ^ e := zpow_pos (by norm_num) e
  have hzero : (0 : Binary64).rank? = some 0 := by decide
  have hnan : x.isNaN = false := by rw [isNaN, hv]
  have hcompare : x.compare? 0 = some (compare
      (if x.bits.toNat / 2 ^ 63 = 1 then -((x.bits.toNat % 2 ^ 63 : Nat) : Int)
        else (x.bits.toNat % 2 ^ 63 : Nat)) 0) := by
    rw [compare?, rank?, hnan, hzero]
    rfl
  have hlt : x < 0 ↔ negative = true ∧ m ≠ 0 := by
    show x.compare? 0 = some .lt ↔ _
    rw [hcompare, hsign, Ne, hm, Option.some.injEq, Int.compare_eq_lt]
    split <;> omega
  rw [hlt, ← not_le, mul_nonneg_iff_of_pos_right hpow, Int.cast_nonneg_iff]
  cases negative <;> simp

theorem le_divNearest_iff {a b k : Nat} (hb : 0 < b) (hk : k % 2 = 0) :
    k ≤ divNearest a b ↔ 2 * k * b ≤ 2 * a + b := by
  have hlt : a % b < b := Nat.mod_lt a hb
  have hdiv : a = a / b * b + a % b := (Nat.div_add_mod' a b).symm
  generalize hq : a / b = q at hdiv
  generalize hr : a % b = r at hlt hdiv
  have hround : divNearest a b =
      if 2 * r < b then q else if b < 2 * r then q + 1 else q + q % 2 := by
    rw [divNearest, hq, hr]
  rcases Nat.lt_trichotomy k (q + 1) with hkq | rfl | hkq
  · have hmul : k * b ≤ q * b := Nat.mul_le_mul_right b (by omega)
    rw [hround]
    constructor
    · intro _
      nlinarith
    · intro _
      split_ifs <;> omega
  · have hmul : (q + 1) * b = q * b + b := Nat.succ_mul q b
    rw [hround, Nat.mul_assoc, hmul, hdiv]
    split_ifs <;> omega
  · have hmul : (q + 2) * b ≤ k * b := Nat.mul_le_mul_right b (by omega)
    rw [hround]
    constructor
    · intro _
      split_ifs at * <;> omega
    · intro _
      nlinarith

theorem divNearest_le {a b k : Nat} (hb : 0 < b) (h : a ≤ k * b) : divNearest a b ≤ k := by
  have hq : a / b ≤ k := Nat.div_le_of_le_mul (by rwa [Nat.mul_comm])
  rw [divNearest]
  rcases Nat.lt_or_eq_of_le hq with hlt | heq
  · split_ifs <;> omega
  · -- nothing is left over
    have hmod : a % b = 0 := by
      have hdiv := Nat.div_add_mod' a b
      rw [heq] at hdiv
      omega
    rw [hmod, if_pos (by omega)]
    exact hq

theorem isInfinite_ofBits {negative : Bool} {k : Nat} (h : k ≤ 2047 * 2 ^ 52) :
    (ofBits negative k).isInfinite = decide (k = 2047 * 2 ^ 52) := by
  obtain ⟨sign, hsign, hbits⟩ : ∃ sign, (sign = 0 ∨ sign = 2 ^ 63) ∧
      (ofBits negative k).bits.toNat = sign + k := by
    rw [ofBits, UInt64.toNat_ofNat']
    cases negative with
    | false => exact ⟨0, Or.inl rfl, Nat.mod_eq_of_lt (by simp; omega)⟩
    | true => exact ⟨2 ^ 63, Or.inr rfl, Nat.mod_eq_of_lt (by simp; omega)⟩
  have hexponent : (sign + k) / 2 ^ 52 % 2048 = k / 2 ^ 52 := by
    rcases hsign with rfl | rfl <;> omega
  have hfraction : (sign + k) % 2 ^ 52 = k % 2 ^ 52 := by
    rcases hsign with rfl | rfl <;> omega
  rw [isInfinite, value, hbits]
  simp only [Nat.pow_eq, hexponent, hfraction]
  by_cases hk : k = 2047 * 2 ^ 52
  · subst hk
    rfl
  · have hne : k / 2 ^ 52 ≠ 2047 := by omega
    rw [if_neg hne, decide_eq_false hk]
    by_cases hzero : k / 2 ^ 52 = 0
    · rw [if_pos hzero]
    · rw [if_neg hzero]

/-- The double nearest to a whole number: its first 53 digits, rounded by the others. -/
theorem ofRatio_one {negative : Bool} {n : Nat} (hn : n ≠ 0) :
    ofRatio negative n 1 =
      let magnitude := (n.log2 + 1022) * 2 ^ 52 +
        divNearest (n * 2 ^ (52 - n.log2)) (2 ^ (n.log2 - 52))
      if 2047 * 2 ^ 52 ≤ magnitude then infinity negative else ofBits negative magnitude := by
  have hlog : 2 ^ n.log2 ≤ n := Nat.log2_self_le hn
  have hone : (1 : Nat).log2 = 0 := by decide
  rw [ofRatio, if_neg hn]
  simp only [hone, Nat.pow_eq, Nat.one_mul, Nat.mul_one]
  by_cases h52 : 52 ≤ n.log2
  · obtain ⟨s, hs⟩ := Nat.exists_eq_add_of_le h52
    have hlow : ¬ n < 2 ^ 52 * 2 ^ s := by
      rw [not_lt, ← pow_add, ← hs]
      exact hlog
    have hguess : (n.log2 : Int) - ((0 : Nat) : Int) - 52 = (s : Int) := by omega
    have hmax : max (-1074) (s : Int) = s := by omega
    have hplace : ((s : Int) + 1074).toNat = n.log2 + 1022 := by omega
    have hnone : 52 - n.log2 = 0 := by omega
    have hsome : n.log2 - 52 = s := by omega
    rw [hguess, if_pos (Int.natCast_nonneg s), Int.toNat_natCast, decide_eq_false hlow,
      if_neg Bool.false_ne_true, hmax, if_pos (Int.natCast_nonneg s), Int.toNat_natCast, hplace,
      hnone, hsome, pow_zero, Nat.mul_one]
  · obtain ⟨s, hs⟩ : ∃ s, n.log2 + (s + 1) = 52 := ⟨51 - n.log2, by omega⟩
    have hlow : ¬ n * 2 ^ (s + 1) < 2 ^ 52 := by
      rw [not_lt, ← hs, pow_add]
      exact Nat.mul_le_mul_right _ hlog
    have hguess : (n.log2 : Int) - ((0 : Nat) : Int) - 52 = -((s + 1 : Nat) : Int) := by omega
    have hneg : ¬ (0 : Int) ≤ -((s + 1 : Nat) : Int) := by omega
    have hmax : max (-1074) (-((s + 1 : Nat) : Int)) = -((s + 1 : Nat) : Int) := by omega
    have hplace : (-((s + 1 : Nat) : Int) + 1074).toNat = n.log2 + 1022 := by omega
    have hnone : n.log2 - 52 = 0 := by omega
    have hsome : 52 - n.log2 = s + 1 := by omega
    rw [hguess, if_neg hneg, Int.neg_neg, Int.toNat_natCast, decide_eq_false hlow,
      if_neg Bool.false_ne_true, hmax, if_neg hneg, Int.neg_neg, Int.toNat_natCast, hplace,
      hnone, hsome, pow_zero]

/-- What is left of a whole number has 53 digits, or it is rounded up to the first number that has
more. -/
theorem divNearest_first {n : Nat} (hn : n ≠ 0) :
    2 ^ 52 ≤ divNearest (n * 2 ^ (52 - n.log2)) (2 ^ (n.log2 - 52)) ∧
      divNearest (n * 2 ^ (52 - n.log2)) (2 ^ (n.log2 - 52)) ≤ 2 ^ 53 := by
  have hlow : 2 ^ n.log2 ≤ n := Nat.log2_self_le hn
  have hhigh : n < 2 ^ (n.log2 + 1) := Nat.lt_log2_self
  have hpos : 0 < 2 ^ (n.log2 - 52) := by positivity
  have hpow : (2 : Nat) ^ 52 * 2 ^ (n.log2 - 52) = 2 ^ n.log2 * 2 ^ (52 - n.log2) := by
    rw [← pow_add, ← pow_add]
    congr 1
    omega
  have hfirst : 2 ^ 52 * 2 ^ (n.log2 - 52) ≤ n * 2 ^ (52 - n.log2) := by
    rw [hpow]
    exact Nat.mul_le_mul_right _ hlow
  have hlast : n * 2 ^ (52 - n.log2) ≤ 2 ^ 53 * 2 ^ (n.log2 - 52) := by
    calc n * 2 ^ (52 - n.log2) ≤ 2 ^ (n.log2 + 1) * 2 ^ (52 - n.log2) :=
          Nat.mul_le_mul_right _ hhigh.le
      _ = 2 * (2 ^ n.log2 * 2 ^ (52 - n.log2)) := by ring
      _ = 2 ^ 53 * 2 ^ (n.log2 - 52) := by rw [← hpow]; ring
  refine ⟨(le_divNearest_iff hpos (by decide)).2 ?_, divNearest_le hpos hlast⟩
  rw [Nat.mul_assoc]
  omega

/-- A whole number is nearest to infinity from the middle between the largest finite double and the
next power of two on. -/
theorem le_magnitude_iff {n : Nat} (hn : n ≠ 0) :
    2047 * 2 ^ 52 ≤ (n.log2 + 1022) * 2 ^ 52 +
        divNearest (n * 2 ^ (52 - n.log2)) (2 ^ (n.log2 - 52)) ↔ 2 ^ 1024 - 2 ^ 970 ≤ n := by
  have hlow : 2 ^ n.log2 ≤ n := Nat.log2_self_le hn
  have hhigh : n < 2 ^ (n.log2 + 1) := Nat.lt_log2_self
  obtain ⟨hfirst, hlast⟩ := divNearest_first hn
  rcases Nat.lt_trichotomy n.log2 1023 with hlog | hlog | hlog
  · have hpow : 2 ^ (n.log2 + 1) ≤ 2 ^ 1023 := by gcongr <;> omega
    omega
  · have hnone : 52 - 1023 = 0 := rfl
    have hsome : 1023 - 52 = 971 := rfl
    have hround : 2 ^ 53 ≤ divNearest n (2 ^ 971) ↔ 2 * 2 ^ 53 * 2 ^ 971 ≤ 2 * n + 2 ^ 971 :=
      le_divNearest_iff (by positivity) (by decide)
    rw [hlog, hnone, hsome, pow_zero, Nat.mul_one] at hfirst hlast ⊢
    omega
  · have hpow : 2 ^ 1024 ≤ 2 ^ n.log2 := by gcongr <;> omega
    omega

theorem isInfinite_infinity (negative : Bool) : (infinity negative).isInfinite = true := by
  rw [infinity, Nat.pow_eq, isInfinite_ofBits le_rfl]
  rfl

theorem isInfinite_ofRatio_one_iff {negative : Bool} {n : Nat} :
    (ofRatio negative n 1).isInfinite = true ↔ 2 ^ 1024 - 2 ^ 970 ≤ n := by
  by_cases hn : n = 0
  · have hmiddle : (2 : Nat) ^ 970 < 2 ^ 1024 := by gcongr <;> omega
    subst hn
    rw [ofRatio, if_pos rfl, isInfinite_ofBits (by omega), decide_eq_true_iff]
    omega
  rw [ofRatio_one hn, ← le_magnitude_iff hn]
  dsimp only
  split_ifs with h
  · exact iff_of_true (isInfinite_infinity negative) h
  · rw [isInfinite_ofBits (by omega), decide_eq_true_iff]
    omega

/-- A whole number is near to no double if it is at least as near to the power of two after the
largest finite one. -/
theorem ofInt?_eq_none_iff {n : Int} : ofInt? n = none ↔ 2 ^ 1024 - 2 ^ 970 ≤ n.natAbs := by
  have hinfinite : (if n.natAbs.log2 > 1024 then infinity (n < 0)
      else ofRatio (n < 0) n.natAbs 1).isInfinite = true ↔ 2 ^ 1024 - 2 ^ 970 ≤ n.natAbs := by
    split_ifs with hlog
    · have hn : n.natAbs ≠ 0 := by
        intro h
        simp [h] at hlog
      have hpow : 2 ^ 1024 ≤ 2 ^ n.natAbs.log2 := by gcongr; omega
      have hlow : 2 ^ n.natAbs.log2 ≤ n.natAbs := Nat.log2_self_le hn
      exact iff_of_true (isInfinite_infinity _) (by omega)
    · exact isInfinite_ofRatio_one_iff
  rw [ofInt?, ← hinfinite]
  generalize (if n.natAbs.log2 > 1024 then infinity (n < 0)
    else ofRatio (n < 0) n.natAbs 1) = x
  cases x.isInfinite <;> simp

end Binary64

namespace Number

def rational? (a : Number) : Option ℚ :=
  match a.value with
  | .inl n => some n
  | .inr x => x.rational?

theorem compare?_whole_of_rational {a : Number} {q : ℚ} (h : a.rational? = some q) (n : Int) :
    (whole n).compare? a = some (compare (n : ℚ) q) := by
  unfold rational? at h
  rw [compare?]
  cases hv : a.value with
  | inl m =>
    rw [hv] at h
    obtain rfl := Option.some.inj h
    rw [← cmp_eq_compare, Int.cast_strictMono.cmp_map_eq, cmp_eq_compare]
    rfl
  | inr x =>
    rw [hv] at h
    show (x.compareInt? n).map Ordering.swap = _
    rw [Binary64.compareInt?_of_rational h, Option.map_some, ← cmp_eq_compare, cmp_swap,
      cmp_eq_compare]

theorem reaches_of_rational {a : Number} {q : ℚ} (h : a.rational? = some q) (n : Int) :
    (whole n).reaches a = decide (q ≤ n) := by
  rw [reaches, exceeds, equals, compare?_whole_of_rational h, ← Bool.decide_or, decide_eq_decide,
    Option.some.injEq, Option.some.injEq, compare_gt_iff_gt, compare_eq_iff_eq, le_iff_lt_or_eq,
    eq_comm]

end Number

end ResilientCalls
