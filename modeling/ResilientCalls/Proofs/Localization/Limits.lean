import Mathlib.Algebra.GroupWithZero.Nat
import Mathlib.Data.List.Forall2
import Mathlib.Data.List.Nodup
import ResilientCalls.Localization.Limits

namespace ResilientCalls.Localization.Batch

/-- At this place a key occurs for the second time. -/
structure SecondAt (keys : List String) (key : String) (place : Nat) : Prop where
  here : keys[place]? = some key
  once : (keys.take place).count key = 1

/-- The keys that occur at least twice, each once, in the order of their second occurrences. -/
structure Recurring (keys found : List String) : Prop where
  mem_iff : ∀ key, key ∈ found ↔ 2 ≤ keys.count key
  nodup : found.Nodup
  ordered : ∃ places : List Nat,
    places.Pairwise (· < ·) ∧ List.Forall₂ (SecondAt keys) found places

variable {keys found seen : List String} {key : String} {b : Batch}

theorem SecondAt.lt_length {place : Nat} (h : SecondAt keys key place) : place < keys.length :=
  (List.getElem?_eq_some_iff.1 h.here).1

theorem SecondAt.append {place : Nat} (h : SecondAt keys key place) (more : List String) :
    SecondAt (keys ++ more) key place := by
  have hplace := h.lt_length
  refine ⟨?_, ?_⟩
  · rw [List.getElem?_append_left hplace]
    exact h.here
  · rw [List.take_append_of_le_length (Nat.le_of_lt hplace)]
    exact h.once

theorem recurring_nil : Recurring [] [] :=
  ⟨by simp, List.nodup_nil, [], List.Pairwise.nil, List.Forall₂.nil⟩

theorem Recurring.again (h : Recurring keys found) (hseen : key ∈ keys) (hnew : key ∉ found) :
    Recurring (keys ++ [key]) (found ++ [key]) := by
  have honce : keys.count key = 1 := by
    have hpos := List.count_pos_iff.2 hseen
    have htwice := mt (h.mem_iff key).2 hnew
    omega
  refine ⟨fun k => ?_, ?_, ?_⟩
  · rw [List.mem_append, List.mem_singleton, h.mem_iff, List.count_append, List.count_singleton]
    by_cases hk : key = k
    · subst hk
      simp [honce]
    · simp [hk, Ne.symm hk]
  · have hapart : ∀ k ∈ found, k ≠ key := fun k hk he => hnew (he ▸ hk)
    simpa [List.nodup_append] using ⟨h.nodup, hapart⟩
  · obtain ⟨places, hincreasing, hplaces⟩ := h.ordered
    have hbefore : ∀ p ∈ places, p < keys.length := by
      have hflip : List.Forall₂ (fun p k => SecondAt keys k p) places found :=
        List.Forall₂.flip (R := fun p k => SecondAt keys k p) hplaces
      have hboth := hflip.imp fun p k hk => And.intro hk.lt_length hk
      exact ((List.forall₂_and_left places found).1 hboth).1
    have hlast : SecondAt (keys ++ [key]) key keys.length := ⟨by simp, by simpa using honce⟩
    refine ⟨places ++ [keys.length], ?_, ?_⟩
    · simpa [List.pairwise_append] using ⟨hincreasing, hbefore⟩
    · have hkept := hplaces.imp fun k p hk => hk.append [key]
      exact List.rel_append hkept (List.Forall₂.cons hlast List.Forall₂.nil)

theorem Recurring.pass (h : Recurring keys found) (hkey : ¬ (key ∈ keys ∧ key ∉ found)) :
    Recurring (keys ++ [key]) found := by
  refine ⟨fun k => ?_, h.nodup, ?_⟩
  · rw [h.mem_iff, List.count_append, List.count_singleton]
    by_cases hk : key = k
    · subst hk
      have hmem := h.mem_iff key
      have hseen := List.count_pos_iff (a := key) (l := keys)
      have : keys.count key = 0 ∨ 2 ≤ keys.count key := by
        by_cases hf : key ∈ found
        · exact Or.inr (hmem.1 hf)
        · have hnot : key ∉ keys := fun hs => hkey ⟨hs, hf⟩
          exact Or.inl (List.count_eq_zero.2 hnot)
      simp only [beq_self_eq_true, if_true]
      omega
    · simp [hk]
  · obtain ⟨places, hincreasing, hplaces⟩ := h.ordered
    exact ⟨places, hincreasing, hplaces.imp fun k p hk => hk.append [key]⟩

theorem Recurring.step (h : Recurring keys found) (key : String) :
    Recurring (keys ++ [key]) (if key ∈ keys ∧ key ∉ found then found ++ [key] else found) := by
  by_cases hkey : key ∈ keys ∧ key ∉ found
  · rw [if_pos hkey]
    exact h.again hkey.1 hkey.2
  · rw [if_neg hkey]
    exact h.pass hkey

theorem Recurring.repeated (h : Recurring seen.reverse found.reverse) (rest : List String) :
    Recurring (seen.reverse ++ rest) (repeated seen found rest) := by
  induction rest generalizing seen found with
  | nil => simpa [Batch.repeated] using h
  | cons key rest ih =>
    have hstep := h.step key
    have hfound : (if key ∈ seen.reverse ∧ key ∉ found.reverse then found.reverse ++ [key]
        else found.reverse) =
        (if key ∈ seen ∧ key ∉ found then key :: found else found).reverse := by
      simp only [List.mem_reverse]
      split <;> simp
    rw [hfound, ← List.reverse_cons] at hstep
    have hrest := ih hstep
    rwa [List.reverse_cons, List.append_assoc] at hrest

theorem recurring_duplicateKeys (b : Batch) :
    Recurring (b.entries.map (·.key.val)) b.duplicateKeys := by
  have hnone : Recurring (List.reverse []) (List.reverse []) := recurring_nil
  exact hnone.repeated _

/-- No key is repeated exactly if the keys differ from each other. -/
theorem Recurring.eq_nil_iff (h : Recurring keys found) : found = [] ↔ keys.Nodup := by
  rw [List.eq_nil_iff_forall_not_mem, List.nodup_iff_count_le_one]
  refine forall_congr' fun key => ?_
  rw [h.mem_iff]
  omega

example : repeated [] [] ["b", "a", "a", "b", "a"] = ["a", "b"] := by decide

inductive Rule where
  | entries
  | characters
  | keys

def Rule.all : List Rule := [.entries, .characters, .keys]

theorem checkLimits_eq (b : Batch) : b.checkLimits =
    if b.breaches = [] then .ok ()
    else .error (.validation "Invalid translation batch" (b.breaches.map Breach.toJson)) := by
  unfold checkLimits
  cases b.breaches <;> rfl

theorem nodup_keys_of_checkLimits (h : b.checkLimits = .ok ()) :
    (b.entries.map (·.key.val)).Nodup := by
  have hnone : b.breaches = [] := by
    by_contra hsome
    rw [checkLimits_eq, if_neg hsome] at h
    cases h
  have hkeys : b.duplicateKeys = [] := by
    by_contra hne
    simp [breaches, hne] at hnone
  exact (recurring_duplicateKeys b).eq_nil_iff.1 hkeys

end ResilientCalls.Localization.Batch
