import ResilientCalls.Proofs.Json.Grammar
import ResilientCalls.Proofs.StringMap.Balance

namespace ResilientCalls.StringMap

open Json (Content Quoted Space Unmarked Form Grammar)

/-- The scan passes over the part, below the first opening brace. -/
def Passed (c : Context) (part : CodePoints) : Prop := ∀ done depth rest,
  closing? done ⟨depth + 1, c⟩ (part ++ rest) = closing? (part.reverse ++ done) ⟨depth + 1, c⟩ rest

theorem closing?_cons {done ps : CodePoints} {s : Scan} {p : CodePoint}
    (h : (s.step p).depth ≠ 0) :
    closing? done s (p :: ps) = closing? (p :: done) (s.step p) ps := by
  rw [closing?]
  exact if_neg h

theorem passed_nil {c : Context} : Passed c [] := by
  intro done depth rest
  rfl

theorem Passed.append {c : Context} {ps qs : CodePoints} (hps : Passed c ps) (hqs : Passed c qs) :
    Passed c (ps ++ qs) := by
  intro done depth rest
  rw [List.append_assoc, hps, hqs, List.reverse_append, List.append_assoc]

theorem Passed.cons {c : Context} {p : CodePoint} {ps : CodePoints}
    (hp : ∀ depth, Scan.step ⟨depth, c⟩ p = ⟨depth, c⟩) (hps : Passed c ps) :
    Passed c (p :: ps) := by
  intro done depth rest
  have hdepth : (Scan.step ⟨depth + 1, c⟩ p).depth ≠ 0 := by
    rw [hp]
    exact Nat.succ_ne_zero depth
  rw [List.cons_append, closing?_cons hdepth, hp, hps, List.reverse_cons, List.append_assoc,
    List.singleton_append]

/-- What is passed over in another context may stand between what leads there and back. -/
theorem Passed.between {c d : Context} {n : Nat} {first last : CodePoint} {ps : CodePoints}
    (hfirst : ∀ depth, Scan.step ⟨depth, c⟩ first = ⟨depth + n, d⟩)
    (hlast : ∀ depth, Scan.step ⟨depth + n, d⟩ last = ⟨depth, c⟩) (hps : Passed d ps) :
    Passed c (first :: (ps ++ [last])) := by
  intro done depth rest
  have hone : (Scan.step ⟨depth + 1, c⟩ first).depth ≠ 0 := by
    rw [hfirst]
    dsimp only
    omega
  have hback : (Scan.step ⟨depth + n + 1, d⟩ last).depth ≠ 0 := by
    rw [Nat.add_right_comm, hlast]
    exact Nat.succ_ne_zero depth
  rw [List.cons_append, closing?_cons hone, hfirst, Nat.add_right_comm, List.append_assoc, hps,
    List.singleton_append, closing?_cons hback, Nat.add_right_comm, hlast]
  simp

theorem passed_of_unmarked {ps : CodePoints} (h : Unmarked ps) : Passed .outside ps := by
  induction ps with
  | nil => exact passed_nil
  | cons p ps ih =>
    obtain ⟨hp, hps⟩ := Json.unmarked_cons.1 h
    exact (ih hps).cons (Json.Reader.scan_of_not_isMark hp)

theorem step_quoted {p : CodePoint} (hquote : p ≠ '"') (hescape : p ≠ '\\') (depth : Nat) :
    Scan.step ⟨depth, .quoted⟩ p = ⟨depth, .quoted⟩ := by
  simp [Scan.step, hquote, hescape]

theorem passed_hexDigits {digits : CodePoints}
    (h : ∀ p ∈ digits, (Json.hexValue? p.toChar).isSome = true) : Passed .quoted digits := by
  induction digits with
  | nil => exact passed_nil
  | cons p digits ih =>
    obtain ⟨hp, hdigits⟩ := List.forall_mem_cons.1 h
    have hne : ∀ c : Char, Json.hexValue? c = none → p ≠ c := by
      rintro c hc rfl
      rw [CodePoint.toChar, hc] at hp
      cases hp
    exact (ih hdigits).cons (step_quoted (hne '"' (by decide)) (hne '\\' (by decide)))

theorem passed_escape (p : CodePoint) : Passed .quoted ['\\', p] := by
  have hpair : Passed .quoted (.char '\\' :: ([] ++ [p])) := by
    apply passed_nil.between (n := 0) (d := .escaped)
    · intro depth
      rfl
    · intro depth
      rfl
  exact hpair

theorem passed_content {ps : CodePoints} (h : Content ps) : Passed .quoted ps := by
  induction h with
  | nil => exact passed_nil
  | plain hquote hescape _ _ ih => exact ih.cons (step_quoted hquote hescape)
  | escape _ _ ih => exact (passed_escape _).append ih
  | codeUnit _ hdigits _ ih =>
    have hrest := (passed_hexDigits hdigits).append ih
    exact (passed_escape 'u').append hrest

theorem passed_quoted {ps : CodePoints} (h : Quoted ps) : Passed .outside ps := by
  obtain ⟨hcontent⟩ := h
  apply (passed_content hcontent).between (n := 0)
  · intro depth
    rfl
  · intro depth
    rfl

theorem passed_braces {ps : CodePoints} (h : Passed .outside ps) :
    Passed .outside ('{' :: (ps ++ [.char '}'])) := by
  apply h.between (n := 1)
  · intro depth
    rfl
  · intro depth
    rfl

theorem passed_brackets {ps : CodePoints} (h : Passed .outside ps) :
    Passed .outside ('[' :: (ps ++ [.char ']'])) := by
  apply h.between (n := 0)
  · intro depth
    rfl
  · intro depth
    rfl

theorem Passed.separated {p : CodePoint} {ps rest : CodePoints} (hps : Passed .outside ps)
    (hp : Json.Reader.isMark p.toChar = false) (hrest : Passed .outside rest) :
    Passed .outside (ps ++ p :: rest) :=
  hps.append (hrest.cons (Json.Reader.scan_of_not_isMark hp))

theorem passed_of_grammar {form : Form} {ps : CodePoints} (h : Grammar form ps) :
    Passed .outside ps := by
  induction h with
  | word hw => exact passed_of_unmarked (Json.unmarked_word hw)
  | number hdecimal => exact passed_of_unmarked hdecimal.unmarked
  | text hquoted => exact passed_quoted hquoted
  | emptyArray hspace => exact passed_brackets (passed_of_unmarked hspace.unmarked)
  | array _ ih => exact passed_brackets ih
  | nested _ ih => exact ih
  | emptyObject hspace => exact passed_braces (passed_of_unmarked hspace.unmarked)
  | object _ ih => exact passed_braces ih
  | item hbefore _ hafter ih =>
    have hrest := ih.append (passed_of_unmarked hafter.unmarked)
    exact (passed_of_unmarked hbefore.unmarked).append hrest
  | lastItem _ ih => exact ih
  | moreItems _ _ ih ihrest => exact ih.separated (by decide) ihrest
  | field hbefore hname hafter _ ih =>
    have hrest := (passed_of_unmarked hafter.unmarked).separated (p := .char ':') (by decide) ih
    have hnamed := (passed_quoted hname).append hrest
    exact (passed_of_unmarked hbefore.unmarked).append hnamed
  | lastField _ ih => exact ih
  | moreFields _ _ ih ihrest => exact ih.separated (by decide) ihrest

/-- What is passed over ends where the brace before it is closed. -/
theorem closing?_braces {ps : CodePoints} (h : Passed .outside ps) (after : CodePoints) :
    closing? [] .start (.char '{' :: (ps ++ [.char '}']) ++ after) =
      some (.char '{' :: (ps ++ [.char '}'])) := by
  have hopen : (Scan.start.step '{').depth ≠ 0 := by decide
  have hstep : Scan.start.step '{' = ⟨0 + 1, .outside⟩ := rfl
  rw [List.cons_append, closing?_cons hopen, hstep, List.append_assoc, h, List.singleton_append]
  simp [closing?, Scan.step]

theorem balancedObject?_of_grammar {before ps : CodePoints} (hbefore : .char '{' ∉ before)
    (h : Grammar .object ps) (after : CodePoints) :
    balancedObject? (before ++ ps ++ after) = some ps := by
  have hbraces : ∃ qs, Passed .outside qs ∧ ps = .char '{' :: (qs ++ [.char '}']) := by
    cases h with
    | emptyObject hspace => exact ⟨_, passed_of_unmarked hspace.unmarked, rfl⟩
    | object hfields => exact ⟨_, passed_of_grammar hfields, rfl⟩
  obtain ⟨qs, hqs, rfl⟩ := hbraces
  rw [List.append_assoc, balancedObject?_append hbefore (by rfl)]
  exact closing?_braces hqs after

/-- The scan finds the first object of a text if there is one, and the text of every JSON object,
whatever follows it. -/
theorem first_object_found :
    (∀ text : CodePoints,
      (balancedObject? text = none ↔
        .char '{' ∉ text ∨ ∀ part, FromBrace text part → (scanned part).depth ≠ 0) ∧
      ∀ part, (balancedObject? text = some part ↔ FirstObject text part) ∧
        (FirstObject text part → ∀ shorter, shorter <+: part → shorter ≠ [] → shorter ≠ part →
          closed shorter < opened shorter)) ∧
    ∀ before ps after : CodePoints, .char '{' ∉ before → Grammar .object ps →
      balancedObject? (before ++ ps ++ after) = some ps := by
  refine ⟨fun text => ⟨balancedObject?_eq_none_iff, fun part => ⟨?_, ?_⟩⟩, ?_⟩
  · exact balancedObject?_eq_some_iff
  · intro h shorter hshorter hne hneq
    exact h.closed_lt_opened hshorter hne hneq
  · intro before ps after hbefore h
    exact balancedObject?_of_grammar hbefore h after

/-- An object with an object in it, whose names have a brace and a quote. -/
def nested : CodePoints :=
  .ofString "\x7b\"a\x7d\": [-1.5, \x7b\"b\\\"\": null\x7d]\x7d"

theorem nested_object : Grammar .object nested := by
  have hnone : Space [] := List.forall_mem_nil _
  have hblank : Space [.char ' '] := List.forall_mem_singleton.2 (by decide)
  have hnumber : Json.Decimal ([.char '-'] ++ ([.char '1'] ++ ([.char '.', .char '5'] ++ []))) := by
    have hwhole : Json.Digits [.char '1'] := ⟨by decide, by decide⟩
    have hfraction : Json.Digits [.char '5'] := ⟨by decide, by decide⟩
    exact .mk (by decide) (.inr ⟨hwhole, by decide⟩) (.inr ⟨_, hfraction, rfl⟩) (.inl rfl)
  have hinner : Quoted _ := .mk (.plain (p := .char 'b') (by decide) (by decide) (by decide)
    (.escape (c := '"') rfl .nil))
  have houter : Quoted _ := .mk (.plain (p := .char 'a') (by decide) (by decide) (by decide)
    (.plain (p := .char '}') (by decide) (by decide) (by decide) .nil))
  have hnull : Grammar .value (.ofString "null") := .word (by decide)
  have hobject := Grammar.object (.lastField (.field hnone hinner hnone (.item hblank hnull hnone)))
  have hitems := Grammar.moreItems (.item hnone (.number hnumber) hnone)
    (.lastItem (.item hblank (.nested hobject) hnone))
  have hfield := Grammar.field hnone houter hnone (.item hblank (.array hitems) hnone)
  exact .object (.lastField hfield)

/-- What is before the object has a brace that closes nothing. -/
theorem first_object_found_nested :
    Grammar .object nested ∧
      balancedObject? (.ofString "\x7d Here: " ++ nested ++ .ofString " \x7d") = some nested ∧
      closed (nested.take 18) < opened (nested.take 18) := by
  obtain ⟨hfirst, hgrammar⟩ := first_object_found
  have hfound := hgrammar (.ofString "\x7d Here: ") nested (.ofString " \x7d") (by decide)
    nested_object
  have hobject := ((hfirst _).2 _).1.1 hfound
  refine ⟨nested_object, hfound, ?_⟩
  exact ((hfirst _).2 _).2 hobject _ (List.take_prefix 18 nested) (by decide) (by decide)

end ResilientCalls.StringMap
