import Mathlib.Data.List.Basic
import Mathlib.Data.List.TakeWhile
import ResilientCalls.Text.Blank
import ResilientCalls.Text.Digit

namespace ResilientCalls

namespace Text

/-- The code point of a digit is one of ten from that of a zero on. -/
theorem exists_zero_of_digitValue {c : Char} {d : Nat} (h : digitValue? c = some d) :
    ∃ z ∈ digitZeros, z ≤ c.toNat ∧ c.toNat < z + 10 := by
  unfold digitValue? at h
  split at h
  · split at h
    · next hdigit =>
      have hbounds : 48 ≤ c.toNat ∧ c.toNat ≤ 57 := by
        simp only [Char.isDigit, Bool.and_eq_true, decide_eq_true_eq, ge_iff_le,
          UInt32.le_iff_toNat_le] at hdigit
        exact hdigit
      exact ⟨0x30, by decide, by omega⟩
    · cases h
  · obtain ⟨z, hz, -⟩ := Option.map_eq_some_iff.1 h
    have hrange := List.find?_some hz
    simp only [Bool.and_eq_true, decide_eq_true_eq] at hrange
    exact ⟨z, List.mem_of_find?_eq_some hz, hrange⟩

theorem isBlank_of_digitValue {c : Char} {d : Nat} (h : digitValue? c = some d) :
    isBlank c = false := by
  have hapart : ∀ z ∈ digitZeros, ∀ r ∈ blankRanges, r.2 < z ∨ z + 10 ≤ r.1 := by decide
  obtain ⟨z, hz, hlow, hhigh⟩ := exists_zero_of_digitValue h
  rw [isBlank, List.any_eq_false]
  intro r hr
  have := hapart z hz r hr
  simp only [Bool.and_eq_true, decide_eq_true_eq]
  omega

theorem digitValue?_of_isBlank {c : Char} (h : isBlank c = true) : digitValue? c = none := by
  cases hd : digitValue? c with
  | none => rfl
  | some d =>
    rw [isBlank_of_digitValue hd] at h
    cases h

/-- A character whose small form is a Latin letter is neither blank nor a digit. -/
theorem letter_of_toLower {c : Char} (h : 97 ≤ c.toLower.toNat ∧ c.toLower.toNat ≤ 122) :
    isBlank c = false ∧ digitValue? c = none := by
  have hbounds : 65 ≤ c.toNat ∧ c.toNat ≤ 122 := by
    unfold Char.toLower at h
    split at h
    · next hcapital =>
      simp only [ge_iff_le, UInt32.le_iff_toNat_le] at hcapital
      have hlow : 65 ≤ c.toNat := hcapital.1
      have hhigh : c.toNat ≤ 90 := hcapital.2
      omega
    · omega
  constructor
  · have hapart : ∀ r ∈ blankRanges, r.2 < 65 ∨ 122 < r.1 := by decide
    rw [isBlank, List.any_eq_false]
    intro r hr
    have := hapart r hr
    simp only [Bool.and_eq_true, decide_eq_true_eq]
    omega
  · have hdigit : c.isDigit = false := by
      rw [Char.isDigit, Bool.and_eq_false_iff]
      right
      rw [decide_eq_false_iff_not, UInt32.le_iff_toNat_le]
      show ¬ c.toNat ≤ 57
      omega
    rw [digitValue?, if_pos (by omega), hdigit]
    rfl

def Blank (cs : List Char) : Prop := ∀ c ∈ cs, isBlank c = true

theorem blank_nil : Blank [] := List.forall_mem_nil _

theorem trimStart_append {before cs : List Char} (hbefore : Blank before)
    (hcs : ∀ c ∈ cs.head?, isBlank c = false) : trimStart (before ++ cs) = cs := by
  rw [trimStart, List.dropWhile_append_of_pos hbefore]
  cases cs with
  | nil => rfl
  | cons c cs =>
    rw [List.dropWhile_cons, hcs c rfl]
    rfl

theorem trimEnd_append {after : List Char} (hafter : Blank after) (cs : List Char) :
    trimEnd (cs ++ after) = trimEnd cs := by
  have hreverse : ∀ c ∈ after.reverse, isBlank c = true :=
    fun c hc => hafter c (List.mem_reverse.1 hc)
  rw [trimEnd, trimEnd, List.reverse_append, List.dropWhile_append_of_pos hreverse]

/-- Blanks after a text stay at its end, unless nothing else is left. -/
theorem trimStart_append_blank {after : List Char} (hafter : Blank after) (cs : List Char) :
    trimStart (cs ++ after) = if trimStart cs = [] then [] else trimStart cs ++ after := by
  have hdrop : after.dropWhile isBlank = [] := List.dropWhile_eq_nil_iff.2 hafter
  rw [trimStart, trimStart, List.dropWhile_append, hdrop]
  simp only [List.isEmpty_iff]

/-- Blanks around a text make no difference to what is left. -/
theorem trim_padded {before after : List Char} (hbefore : Blank before) (hafter : Blank after)
    (cs : List Char) : trim (before ++ (cs ++ after)) = trim cs := by
  have hstart : trimStart (before ++ (cs ++ after)) = trimStart (cs ++ after) :=
    List.dropWhile_append_of_pos hbefore
  rw [trim, trim, hstart, trimStart_append_blank hafter]
  by_cases hnil : trimStart cs = []
  · rw [if_pos hnil, hnil]
  · rw [if_neg hnil, trimEnd_append hafter]

/-- Trimming takes away just the blanks around a text without blanks. -/
theorem trim_append {before cs after : List Char} (hbefore : Blank before) (hafter : Blank after)
    (hcs : ∀ c ∈ cs, isBlank c = false) : trim (before ++ (cs ++ after)) = cs := by
  have hnone : ∀ ds : List Char, ds ⊆ cs → trimStart ds = ds := by
    intro ds hds
    apply trimStart_append blank_nil
    intro c hc
    exact hcs c (hds (List.mem_of_mem_head? hc))
  have hreverse : trimStart cs.reverse = cs.reverse := by
    apply hnone
    intro c hc
    exact List.mem_reverse.1 hc
  have hend : trimEnd cs = cs := by
    show (trimStart cs.reverse).reverse = cs
    rw [hreverse, List.reverse_reverse]
  rw [trim_padded hbefore hafter, trim, hnone cs (List.Subset.refl cs), hend]

theorem exists_trimStart (cs : List Char) : ∃ before, cs = before ++ trimStart cs ∧ Blank before :=
  ⟨cs.takeWhile isBlank, List.takeWhile_append_dropWhile.symm, fun _ => List.mem_takeWhile_imp⟩

theorem exists_trimEnd (cs : List Char) : ∃ after, cs = trimEnd cs ++ after ∧ Blank after := by
  obtain ⟨after, hafter, hblank⟩ := exists_trimStart cs.reverse
  refine ⟨after.reverse, ?_, fun c hc => hblank c (List.mem_reverse.1 hc)⟩
  have hreverse := congrArg List.reverse hafter
  rwa [List.reverse_reverse, List.reverse_append] at hreverse

theorem exists_trim (cs : List Char) :
    ∃ before after, cs = before ++ (trim cs ++ after) ∧ Blank before ∧ Blank after := by
  obtain ⟨before, hbefore, hblank⟩ := exists_trimStart cs
  obtain ⟨after, hafter, hblank'⟩ := exists_trimEnd (trimStart cs)
  refine ⟨before, after, ?_, hblank, hblank'⟩
  rw [trim, ← hafter]
  exact hbefore

theorem isBlank_space : isBlank ' ' = true := by decide

/-- There is a first character, and it is not blank. -/
def Begins (cs : List Char) : Prop := ∃ c ∈ cs.head?, isBlank c = false

/-- There is a last character, and it is not blank. -/
def Ends (cs : List Char) : Prop := ∃ c ∈ cs.getLast?, isBlank c = false

structure Trimmed (cs : List Char) : Prop where
  begins : Begins cs
  ends : Ends cs

theorem trimStart_of_begins {cs : List Char} (h : Begins cs) : trimStart cs = cs := by
  obtain ⟨c, hc, hblank⟩ := h
  obtain ⟨rest, rfl⟩ := List.head?_eq_some_iff.1 hc
  rw [trimStart, List.dropWhile_cons, hblank]
  rfl

theorem begins_reverse {cs : List Char} : Begins cs.reverse ↔ Ends cs := by
  rw [Begins, List.head?_reverse, Ends]

theorem ends_reverse {cs : List Char} : Ends cs.reverse ↔ Begins cs := by
  rw [← begins_reverse, List.reverse_reverse]

theorem Begins.append {cs : List Char} (h : Begins cs) (more : List Char) :
    Begins (cs ++ more) := by
  obtain ⟨c, hc, hblank⟩ := h
  obtain ⟨rest, rfl⟩ := List.head?_eq_some_iff.1 hc
  exact ⟨c, rfl, hblank⟩

theorem Ends.append {cs : List Char} (h : Ends cs) (before : List Char) :
    Ends (before ++ cs) := by
  obtain ⟨c, hc, hblank⟩ := h
  refine ⟨c, ?_, hblank⟩
  rw [List.getLast?_append, Option.mem_def.1 hc]
  rfl

theorem Begins.of_prefix {part cs : List Char} (h : Begins cs) (hpart : part <+: cs)
    (hne : part ≠ []) : Begins part := by
  obtain ⟨c, hc, hblank⟩ := h
  obtain ⟨rest, rfl⟩ := hpart
  rw [List.head?_append_of_ne_nil part hne] at hc
  exact ⟨c, hc, hblank⟩

theorem Ends.of_append {before cs : List Char} (h : Ends (before ++ cs)) (hne : cs ≠ []) :
    Ends cs := by
  obtain ⟨c, hc, hblank⟩ := h
  rw [List.getLast?_append_of_ne_nil before hne] at hc
  exact ⟨c, hc, hblank⟩

theorem Ends.ne_nil {cs : List Char} (h : Ends cs) : cs ≠ [] := by
  rintro rfl
  obtain ⟨c, hc, -⟩ := h
  cases hc

theorem Ends.of_blank {c : Char} {cs : List Char} (h : Ends (c :: cs)) (hc : isBlank c = true) :
    Ends cs := by
  have hsplit : Ends ([c] ++ cs) := h
  apply hsplit.of_append
  rintro rfl
  obtain ⟨d, hd, hblank⟩ := h
  obtain rfl : c = d := Option.some.inj hd
  rw [hblank] at hc
  cases hc

theorem trimEnd_of_ends {cs : List Char} (h : Ends cs) : trimEnd cs = cs := by
  have hreverse : trimStart cs.reverse = cs.reverse := trimStart_of_begins (begins_reverse.2 h)
  show (trimStart cs.reverse).reverse = cs
  rw [hreverse, List.reverse_reverse]

theorem Trimmed.ne_nil {cs : List Char} (h : Trimmed cs) : cs ≠ [] := h.ends.ne_nil

theorem Trimmed.trim_eq {cs : List Char} (h : Trimmed cs) : trim cs = cs := by
  rw [trim, trimStart_of_begins h.begins, trimEnd_of_ends h.ends]

theorem begins_trimStart {cs : List Char} (h : trimStart cs ≠ []) : Begins (trimStart cs) := by
  have hhead := List.head?_dropWhile_not isBlank cs
  cases hcs : trimStart cs with
  | nil => exact absurd hcs h
  | cons c rest =>
    have hdrop : cs.dropWhile isBlank = c :: rest := hcs
    rw [hdrop] at hhead
    exact ⟨c, rfl, by simpa using hhead⟩

theorem ends_trimEnd {cs : List Char} (h : trimEnd cs ≠ []) : Ends (trimEnd cs) := by
  have hstart : trimStart cs.reverse ≠ [] := by
    intro hnil
    apply h
    show (trimStart cs.reverse).reverse = []
    rw [hnil]
    rfl
  show Ends (trimStart cs.reverse).reverse
  rw [ends_reverse]
  exact begins_trimStart hstart

theorem trimmed_trimEnd {cs : List Char} (h : Begins cs) : Trimmed (trimEnd cs) := by
  obtain ⟨after, hcs, hafter⟩ := exists_trimEnd cs
  have hne : trimEnd cs ≠ [] := by
    intro hnil
    rw [hnil, List.nil_append] at hcs
    obtain ⟨c, hc, hblank⟩ := h
    rw [hcs] at hc
    have hc' := hafter c (List.mem_of_mem_head? hc)
    rw [hblank] at hc'
    cases hc'
  have hprefix : trimEnd cs <+: cs := ⟨after, hcs.symm⟩
  exact ⟨h.of_prefix hprefix hne, ends_trimEnd hne⟩

theorem trimmed_trim {cs : List Char} (h : trim cs ≠ []) : Trimmed (trim cs) := by
  apply trimmed_trimEnd
  apply begins_trimStart
  intro hnil
  apply h
  rw [trim, hnil]
  rfl

end Text

end ResilientCalls
