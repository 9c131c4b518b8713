import ResilientCalls.Schema

namespace ResilientCalls.Schema

variable {α β : Type}

theorem map_eq_ok_iff {x : Checked α} {f : α → β} {b : β} :
    x.map f = .ok b ↔ ∃ a, x = .ok a ∧ f a = b := by
  cases x <;> simp [Except.map]

theorem both_eq_ok_iff {x : Checked α} {y : Checked β} {p : α × β} :
    both x y = .ok p ↔ x = .ok p.1 ∧ y = .ok p.2 := by
  obtain ⟨a, b⟩ := p
  cases x <;> cases y <;> simp [both]

theorem within_eq_ok_iff {segment : String} {x : Checked α} {a : α} :
    within segment x = .ok a ↔ x = .ok a := by
  cases x <;> simp [within]

section Fields

variable {n : Name} {fields : List (String × Json)} {j : Json} {check : Json → Checked α} {a : α}

theorem required_of_find? (spelling : Spelling) (hf : n.find? fields = some (n.spelled spelling, j))
    (hc : check j = .ok a) : required n fields check = .ok a := by
  rw [required, hf]
  exact within_eq_ok_iff.2 hc

theorem optional_of_find? (spelling : Spelling) (hf : n.find? fields = some (n.spelled spelling, j))
    (default : α) (hc : check j = .ok a) : optional n fields default check = .ok a := by
  rw [optional, hf]
  exact within_eq_ok_iff.2 hc

theorem optional_of_find?_none (hf : n.find? fields = none) (default : α) :
    optional n fields default check = .ok default := by
  rw [optional, hf]

end Fields

theorem textFrom_eq_ok_iff {least : Nat} {s : String} {t : TextFrom least} :
    textFrom least (.text s) = .ok t ↔ t.val = s := by
  constructor
  · intro h
    unfold textFrom at h
    simp only [text] at h
    split at h
    · rw [← Except.ok.inj h]
    · cases h
  · rintro rfl
    simp [textFrom, text, t.property]

theorem textWithin_eq_ok_iff {least most : Nat} {s : String} {t : TextWithin least most} :
    textWithin least most (.text s) = .ok t ↔ t.val = s := by
  constructor
  · intro h
    unfold textWithin at h
    simp only [text] at h
    split at h
    · split at h
      · rw [← Except.ok.inj h]
      · cases h
    · cases h
  · rintro rfl
    simp [textWithin, text, t.property]

theorem intWithin_eq_ok_iff {least most n : Int} {k : IntWithin least most} :
    intWithin least most (.int n) = .ok k ↔ k.val = n := by
  constructor
  · intro h
    unfold intWithin at h
    simp only [int] at h
    split at h
    · split at h
      · rw [← Except.ok.inj h]
      · cases h
    · cases h
  · rintro rfl
    simp [intWithin, int, k.property]

theorem nullable_eq_ok_iff {check : Json → Checked α} {j : Json} {a : Option α} :
    nullable check j = .ok a ↔
      (j = .null ∧ a = none) ∨ (j ≠ .null ∧ ∃ b, check j = .ok b ∧ a = some b) := by
  cases j with
  | null => simp [nullable, eq_comm]
  | _ =>
    simp only [nullable]
    cases check _ <;> simp [Except.map, eq_comm]

end ResilientCalls.Schema
