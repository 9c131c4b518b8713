import ResilientCalls.Duration.Setting
import ResilientCalls.Proofs.Binary64
import ResilientCalls.Proofs.Text

namespace ResilientCalls

namespace Duration

open Text

/-- A text of digits with these values. -/
def Numeral (cs : List Char) (digits : List Nat) : Prop := cs.map digitValue? = digits.map some

theorem Numeral.exists_head {cs : List Char} {digits : List Nat} (h : Numeral cs digits)
    (hne : digits ≠ []) : ∃ c rest d, cs = c :: rest ∧ digitValue? c = some d := by
  cases digits with
  | nil => exact absurd rfl hne
  | cons d digits =>
    obtain ⟨c, rest, rfl, hd, -⟩ := List.map_eq_cons_iff.1 h
    exact ⟨c, rest, d, rfl, hd⟩

theorem splitDigits_append {numeral rest : List Char} {digits : List Nat}
    (h : Numeral numeral digits) (hrest : ∀ c ∈ rest.head?, digitValue? c = none)
    (done : List Nat) : splitDigits done (numeral ++ rest) = (digits.reverse ++ done, rest) := by
  induction numeral generalizing digits done with
  | nil =>
    obtain rfl : digits = [] := List.map_eq_nil_iff.1 h.symm
    cases rest with
    | nil => rfl
    | cons c rest =>
      rw [List.nil_append, splitDigits, hrest c rfl]
      rfl
  | cons c numeral ih =>
    cases digits with
    | nil => cases h
    | cons d digits =>
      obtain ⟨hc, htail⟩ := List.cons.inj h
      rw [List.cons_append, splitDigits, hc]
      show splitDigits (d :: done) (numeral ++ rest) = _
      rw [ih htail, List.reverse_cons, List.append_assoc]
      rfl

theorem splitDigits_append_blank {after : List Char} (hafter : Blank after) (done : List Nat)
    (cs : List Char) : splitDigits done (cs ++ after) =
      ((splitDigits done cs).1, (splitDigits done cs).2 ++ after) := by
  induction cs generalizing done with
  | nil =>
    cases after with
    | nil => rfl
    | cons c after =>
      have hc : digitValue? c = none := digitValue?_of_isBlank (hafter c List.mem_cons_self)
      simp only [List.nil_append, splitDigits, hc]
  | cons c cs ih =>
    rw [List.cons_append, splitDigits, splitDigits]
    cases hc : digitValue? c with
    | none => rfl
    | some d => exact ih (d :: done)

theorem exists_numeral (done : List Nat) (cs : List Char) : ∃ numeral digits,
    cs = numeral ++ (splitDigits done cs).2 ∧ Numeral numeral digits ∧
      (splitDigits done cs).1 = digits.reverse ++ done := by
  induction cs generalizing done with
  | nil => exact ⟨[], [], rfl, rfl, rfl⟩
  | cons c cs ih =>
    unfold splitDigits
    cases hc : digitValue? c with
    | none => exact ⟨[], [], rfl, rfl, rfl⟩
    | some d =>
      obtain ⟨numeral, digits, hcs, hnumeral, hdone⟩ := ih (d :: done)
      refine ⟨c :: numeral, d :: digits, ?_, ?_, ?_⟩
      · exact congrArg (c :: ·) hcs
      · exact List.cons_eq_cons.2 ⟨hc, hnumeral⟩
      · rw [hdone, List.reverse_cons, List.append_assoc]
        rfl

def Scale.symbol : Scale → List Char
  | .milliseconds => ['m', 's']
  | .seconds => ['s']
  | .minutes => ['m']
  | .hours => ['h']

/-- A unit is spelled in letters of any case; seconds need no letters. -/
def Scale.Spells (scale : Scale) (unit : List Char) : Prop :=
  unit.map Char.toLower = scale.symbol ∨ scale = .seconds ∧ unit = []

/-- Seconds or milliseconds, with the long s in the place of the other. -/
def SpellsLong (unit : List Char) : Prop :=
  unit = [longS] ∨ ∃ c, c.toLower = 'm' ∧ unit = [c, longS]

theorem unit?_of_spells {scale : Scale} {unit : List Char} (h : scale.Spells unit) :
    unit? unit = some (.ok scale) := by
  obtain hsymbol | ⟨rfl, rfl⟩ := h
  · rcases unit with _ | ⟨c, _ | ⟨d, _ | ⟨e, rest⟩⟩⟩
    all_goals cases scale <;> simp_all [Scale.symbol, unit?]
  · rfl

theorem unit?_of_spellsLong {unit : List Char} (h : SpellsLong unit) :
    unit? unit = some (.error (.unknownUnit (String.ofList (unit.map Char.toLower)))) := by
  obtain rfl | ⟨c, hc, rfl⟩ := h
  · rfl
  · show (if c.toLower = 'm' then _ else _) = _
    rw [if_pos hc, List.map_cons, hc]
    rfl

theorem spells_of_unit? {unit : List Char} {u : Except Fault Scale} (h : unit? unit = some u) :
    (∃ scale : Scale, scale.Spells unit) ∨ SpellsLong unit := by
  unfold unit? at h
  split at h
  · exact Or.inl ⟨.seconds, Or.inr ⟨rfl, rfl⟩⟩
  · next c =>
    by_cases hs : c.toLower = 's'
    · exact Or.inl ⟨.seconds, Or.inl (by simp [Scale.symbol, hs])⟩
    by_cases hm : c.toLower = 'm'
    · exact Or.inl ⟨.minutes, Or.inl (by simp [Scale.symbol, hm])⟩
    by_cases hh : c.toLower = 'h'
    · exact Or.inl ⟨.hours, Or.inl (by simp [Scale.symbol, hh])⟩
    by_cases hlong : c = longS
    · exact Or.inr (Or.inl (by rw [hlong]))
    · simp [hs, hm, hh, hlong] at h
  · next c d =>
    by_cases hm : c.toLower = 'm'
    · by_cases hs : d.toLower = 's'
      · exact Or.inl ⟨.milliseconds, Or.inl (by simp [Scale.symbol, hm, hs])⟩
      by_cases hlong : d = longS
      · exact Or.inr (Or.inr ⟨c, hm, by rw [hlong]⟩)
      · simp [hm, hs, hlong] at h
    · simp [hm] at h
  · cases h

theorem letters_of_spells {unit : List Char}
    (h : (∃ scale : Scale, scale.Spells unit) ∨ SpellsLong unit) :
    ∀ c ∈ unit, isBlank c = false ∧ digitValue? c = none := by
  have hlong : isBlank longS = false ∧ digitValue? longS = none := by decide
  intro c hc
  obtain ⟨scale, hsymbol | ⟨-, rfl⟩⟩ | rfl | ⟨m, hm, rfl⟩ := h
  · have hmem : c.toLower ∈ scale.symbol := hsymbol ▸ List.mem_map_of_mem hc
    have hletters : ∀ d ∈ scale.symbol, 97 ≤ d.toNat ∧ d.toNat ≤ 122 := by
      cases scale <;> simp [Scale.symbol]
    exact letter_of_toLower (hletters _ hmem)
  · cases hc
  · rw [List.mem_singleton.1 hc]
    exact hlong
  · rcases List.mem_cons.1 hc with rfl | hc
    · exact letter_of_toLower (by rw [hm]; decide)
    · rw [List.mem_singleton.1 hc]
      exact hlong

/-- Blanks, digits with these values, blanks, the letters of a unit, and blanks. -/
def Writes (cs : List Char) (digits : List Nat) (unit : List Char) : Prop :=
  ∃ before numeral between after, cs = before ++ (numeral ++ (between ++ (unit ++ after))) ∧
    Blank before ∧ Numeral numeral digits ∧ digits ≠ [] ∧ Blank between ∧ Blank after

theorem Writes.exists_digit {cs : List Char} {digits : List Nat} {unit : List Char}
    (h : Writes cs digits unit) : ∃ c ∈ cs, ∃ d, digitValue? c = some d := by
  obtain ⟨before, numeral, between, after, rfl, -, hnumeral, hne, -, -⟩ := h
  obtain ⟨c, rest, d, rfl, hd⟩ := hnumeral.exists_head hne
  exact ⟨c, by simp, d, hd⟩

/-- The digits and the unit are found, as the unit has neither blanks nor digits. -/
theorem Writes.split {cs : List Char} {digits : List Nat} {unit : List Char}
    (h : Writes cs digits unit)
    (hunit : (∃ scale : Scale, scale.Spells unit) ∨ SpellsLong unit) :
    digits ≠ [] ∧ ∃ rest, splitDigits [] (trimStart cs) = (digits.reverse, rest) ∧
      trim rest = unit := by
  obtain ⟨before, numeral, between, after, rfl, hbefore, hnumeral, hne, hbetween, hafter⟩ := h
  have hletters := letters_of_spells hunit
  have hstart : trimStart (before ++ (numeral ++ (between ++ (unit ++ after)))) =
      numeral ++ (between ++ (unit ++ after)) := by
    apply trimStart_append hbefore
    intro c hc
    -- there is a digit, so the text goes on with it
    obtain ⟨c', rest, d, rfl, hd⟩ := hnumeral.exists_head hne
    obtain rfl : c' = c := Option.some.inj hc
    exact isBlank_of_digitValue hd
  have hrest : ∀ c ∈ (between ++ (unit ++ after)).head?, digitValue? c = none := by
    intro c hc
    have hmem := List.mem_of_mem_head? hc
    simp only [List.mem_append] at hmem
    rcases hmem with hc | hc | hc
    · exact digitValue?_of_isBlank (hbetween c hc)
    · exact (hletters c hc).2
    · exact digitValue?_of_isBlank (hafter c hc)
  refine ⟨hne, between ++ (unit ++ after), ?_, ?_⟩
  · rw [hstart, splitDigits_append hnumeral hrest, List.append_nil]
  · exact trim_append hbetween hafter fun c hc => (hletters c hc).1

theorem Writes.unique {cs : List Char} {digits digits' : List Nat} {unit unit' : List Char}
    (h : Writes cs digits unit) (h' : Writes cs digits' unit')
    (hunit : (∃ scale : Scale, scale.Spells unit) ∨ SpellsLong unit)
    (hunit' : (∃ scale : Scale, scale.Spells unit') ∨ SpellsLong unit') :
    digits = digits' ∧ unit = unit' := by
  obtain ⟨-, rest, hsplit, rfl⟩ := h.split hunit
  obtain ⟨-, rest', hsplit', rfl⟩ := h'.split hunit'
  obtain ⟨hdigits, rfl⟩ := Prod.mk.inj (hsplit.symm.trans hsplit')
  exact ⟨List.reverse_injective hdigits, rfl⟩

theorem ofText?_of_writes {s : String} {digits : List Nat} {unit : List Char}
    (h : Writes s.toList digits unit) {u : Except Fault Scale} (hu : unit? unit = some u) :
    ofText? s =
      if maxDigits < digits.length then .error (.tooLong digits.length)
      else u.map fun scale => some (ofDigits digits * scale.factor) := by
  obtain ⟨hne, rest, hsplit, rfl⟩ := h.split (spells_of_unit? hu)
  have hempty : digits.reverse.isEmpty = false := by simpa using hne
  rw [ofText?, hsplit]
  simp only [hempty, Bool.false_eq_true, if_false, hu, List.length_reverse, List.reverse_reverse]

theorem ofText?_of_malformed {s : String}
    (h : ∀ digits unit, Writes s.toList digits unit → unit? unit = none) :
    ofText? s = .ok none := by
  obtain ⟨before, hbefore, hblank⟩ := exists_trimStart s.toList
  obtain ⟨numeral, digits, hcs, hnumeral, hdone⟩ := exists_numeral [] (trimStart s.toList)
  rw [List.append_nil] at hdone
  cases hsplit : splitDigits [] (trimStart s.toList) with
  | mk found rest =>
    rw [hsplit] at hcs hdone
    subst hdone
    rw [ofText?, hsplit]
    by_cases hne : digits = []
    · subst hne
      rfl
    obtain ⟨between, after, hrest, hbetween, hafter⟩ := exists_trim rest
    have hwrites : Writes s.toList digits (trim rest) := by
      refine ⟨before, numeral, between, after, ?_, hblank, hnumeral, hne, hbetween, hafter⟩
      rw [← hrest, ← hcs]
      exact hbefore
    have hempty : digits.reverse.isEmpty = false := by simpa using hne
    simp only [hempty, Bool.false_eq_true, if_false, h digits _ hwrites]

/-- Blanks around a text make no difference to its duration. -/
theorem ofText?_trimmed (s : String) : ofText? (trimmed s) = ofText? s := by
  obtain ⟨before, after, hs, hbefore, hafter⟩ := exists_trim s.toList
  have hstart : trimStart s.toList =
      if trimStart (trim s.toList) = [] then [] else trimStart (trim s.toList) ++ after := by
    rw [← trimStart_append_blank hafter]
    conv_lhs => rw [hs]
    exact List.dropWhile_append_of_pos hbefore
  rw [ofText?, ofText?, trimmed, String.toList_ofList, hstart]
  by_cases hnil : trimStart (trim s.toList) = []
  · rw [if_pos hnil, hnil]
  · have hrest := trim_padded blank_nil hafter
      (splitDigits [] (trimStart (trim s.toList))).2
    rw [if_neg hnil, splitDigits_append_blank hafter]
    simp only [List.nil_append] at hrest
    simp only [hrest]

theorem ofJson?_int (n : Int) : ofJson? (.int n) =
    if 2 ^ 1024 - 2 ^ 970 ≤ n.natAbs then .error .tooLarge
    else .ok (if 0 ≤ n then some n.toNat else none) := by
  have hlarge : (Binary64.ofInt? n).isNone = true ↔ 2 ^ 1024 - 2 ^ 970 ≤ n.natAbs := by
    rw [Option.isNone_iff_eq_none, Binary64.ofInt?_eq_none_iff]
  rw [ofJson?]
  simp only [hlarge]

theorem ofJson?_float (x : Binary64) : ofJson? (.float x) =
    .ok (x.rational?.bind fun q => if 0 ≤ q then some ⌊q⌋₊ else none) := by
  rw [ofJson?]
  cases hx : x.rational? with
  | none =>
    rw [Binary64.truncate?_of_none hx, Option.map_none, ite_self]
    rfl
  | some q =>
    rw [Option.bind_some]
    by_cases hq : 0 ≤ q
    · have hlt : ¬ x < 0 := by
        rw [Binary64.lt_zero_iff_of_rational hx]
        exact not_lt.2 hq
      rw [if_neg hlt, if_pos hq, Binary64.truncate?_of_rational hx hq]
      rfl
    · have hlt : x < 0 := (Binary64.lt_zero_iff_of_rational hx).2 (not_le.1 hq)
      rw [if_pos hlt, if_neg hq]

/-- The milliseconds that a value means. A finite double means its integer part, and neither a
number below zero nor a value that is no number and no text means any. -/
inductive Means : Json → Option Nat → Prop
  | text {s : String} {digits unit} {scale : Scale} : Writes s.toList digits unit →
      scale.Spells unit → Means (.text s) (some (ofDigits digits * scale.factor))
  | malformed {s : String} : (∀ digits unit, Writes s.toList digits unit →
      ∀ scale : Scale, ¬ scale.Spells unit) → Means (.text s) none
  | int (n : Int) : Means (.int n) (if 0 ≤ n then some n.toNat else none)
  | float (x : Binary64) :
      Means (.float x) (x.rational?.bind fun q => if 0 ≤ q then some ⌊q⌋₊ else none)
  | null : Means .null none
  | bool (b : Bool) : Means (.bool b) none
  | list (items : List Json) : Means (.list items) none
  | object (fields : List (String × Json)) : Means (.object fields) none

/-- The values that are refused, whatever they mean: texts that write a duration with too many
digits, texts with the long s in their unit, and whole numbers past the range of doubles. -/
inductive Refused : Json → Fault → Prop
  | tooLong {s : String} {digits unit} : Writes s.toList digits unit →
      ((∃ scale : Scale, scale.Spells unit) ∨ SpellsLong unit) → maxDigits < digits.length →
      Refused (.text s) (.tooLong digits.length)
  | unknownUnit {s : String} {digits unit} : Writes s.toList digits unit → SpellsLong unit →
      digits.length ≤ maxDigits →
      Refused (.text s) (.unknownUnit (String.ofList (unit.map Char.toLower)))
  | tooLarge {n : Int} : 2 ^ 1024 - 2 ^ 970 ≤ n.natAbs → Refused (.int n) .tooLarge

theorem Means.exists (j : Json) : ∃ r, Means j r := by
  cases j with
  | text s =>
    by_cases h : ∃ digits unit, Writes s.toList digits unit ∧ ∃ scale : Scale, scale.Spells unit
    · obtain ⟨digits, unit, hwrites, scale, hspells⟩ := h
      exact ⟨_, .text hwrites hspells⟩
    · exact ⟨none, .malformed fun digits unit hwrites scale hspells =>
        h ⟨digits, unit, hwrites, scale, hspells⟩⟩
  | int n => exact ⟨_, .int n⟩
  | float x => exact ⟨_, .float x⟩
  | null => exact ⟨_, .null⟩
  | bool b => exact ⟨_, .bool b⟩
  | list items => exact ⟨_, .list items⟩
  | object fields => exact ⟨_, .object fields⟩

theorem Means.unique {j : Json} {r r' : Option Nat} (h : Means j r) (h' : Means j r') :
    r = r' := by
  cases h with
  | text hwrites hspells =>
    cases h' with
    | text hwrites' hspells' =>
      obtain ⟨rfl, rfl⟩ := hwrites.unique hwrites' (Or.inl ⟨_, hspells⟩) (Or.inl ⟨_, hspells'⟩)
      have hscale := (unit?_of_spells hspells).symm.trans (unit?_of_spells hspells')
      rw [Except.ok.inj (Option.some.inj hscale)]
    | malformed hnone => exact absurd hspells (hnone _ _ hwrites _)
  | malformed hnone =>
    cases h' with
    | text hwrites hspells => exact absurd hspells (hnone _ _ hwrites _)
    | malformed _ => rfl
  | int _ | float _ | null | bool _ | list _ | object _ => cases h'; rfl

theorem ofJson?_of_refused {j : Json} {f : Fault} (h : Refused j f) : ofJson? j = .error f := by
  cases h with
  | tooLong hwrites hunit hlength =>
    show ofText? _ = _
    rcases hunit with ⟨scale, hspells⟩ | hspells
    · rw [ofText?_of_writes hwrites (unit?_of_spells hspells), if_pos hlength]
    · rw [ofText?_of_writes hwrites (unit?_of_spellsLong hspells), if_pos hlength]
  | unknownUnit hwrites hspells hlength =>
    show ofText? _ = _
    rw [ofText?_of_writes hwrites (unit?_of_spellsLong hspells), if_neg (by omega)]
    rfl
  | tooLarge hlarge => rw [ofJson?_int, if_pos hlarge]

theorem ofJson?_of_means {j : Json} {r : Option Nat} (h : Means j r) (hf : ∀ f, ¬ Refused j f) :
    ofJson? j = .ok r := by
  cases h with
  | text hwrites hspells =>
    have hlength := fun hlong => hf _ (.tooLong hwrites (Or.inl ⟨_, hspells⟩) hlong)
    show ofText? _ = _
    rw [ofText?_of_writes hwrites (unit?_of_spells hspells), if_neg hlength]
    rfl
  | malformed hnone =>
    apply ofText?_of_malformed
    intro digits unit hwrites
    cases hu : unit? unit with
    | none => rfl
    | some u =>
      exfalso
      rcases spells_of_unit? hu with ⟨scale, hspells⟩ | hspells
      · exact hnone _ _ hwrites _ hspells
      by_cases hlong : maxDigits < digits.length
      · exact hf _ (.tooLong hwrites (Or.inr hspells) hlong)
      · exact hf _ (.unknownUnit hwrites hspells (by omega))
  | int n =>
    have hsmall := fun hlarge => hf _ (.tooLarge hlarge)
    rw [ofJson?_int, if_neg hsmall]
  | float x => exact ofJson?_float x
  | null | bool _ | list _ | object _ => rfl

theorem ofJson?_eq_error_iff {j : Json} {f : Fault} : ofJson? j = .error f ↔ Refused j f := by
  constructor
  · intro h
    by_cases hf : ∃ f', Refused j f'
    · obtain ⟨f', hf'⟩ := hf
      obtain rfl := Except.error.inj (h.symm.trans (ofJson?_of_refused hf'))
      exact hf'
    · obtain ⟨r, hr⟩ := Means.exists j
      rw [ofJson?_of_means hr (not_exists.1 hf)] at h
      cases h
  · exact ofJson?_of_refused

theorem ofJson?_eq_ok_iff {j : Json} {r : Option Nat} :
    ofJson? j = .ok r ↔ Means j r ∧ ∀ f, ¬ Refused j f := by
  constructor
  · intro h
    have hf : ∀ f, ¬ Refused j f := by
      intro f hf
      rw [ofJson?_of_refused hf] at h
      cases h
    obtain ⟨r', hr'⟩ := Means.exists j
    rw [ofJson?_of_means hr' hf] at h
    obtain rfl := Except.ok.inj h
    exact ⟨hr', hf⟩
  · rintro ⟨hr, hf⟩
    exact ofJson?_of_means hr hf

example : ofJson? (.text "  15 S ") = .ok (some 15000) := rfl

theorem ofJson?_of_isAbsent {j : Json} (h : isAbsent j = true) : ofJson? j = .ok none := by
  cases j with
  | null => rfl
  | text s =>
    apply ofText?_of_malformed
    intro digits unit hwrites
    obtain ⟨c, hc, d, hd⟩ := hwrites.exists_digit
    have hblank : isBlank c = true := List.all_eq_true.1 h c hc
    rw [isBlank_of_digitValue hd] at hblank
    cases hblank
  | bool _ | int _ | float _ | list _ | object _ => cases h

theorem ofSetting_of_isAbsent {j : Json} (h : isAbsent j = true) (setting : Json) :
    ofSetting j setting = .ok none := if_pos h

theorem ofSetting_of_not_isAbsent {j : Json} (h : isAbsent j ≠ true) (setting : Json) :
    ofSetting j setting =
      match ofJson? j with
      | .ok (some ms) => .ok (some ms)
      | .ok none => .error (invalid j setting)
      | .error f => .error f.failure := by
  rw [ofSetting, if_neg h, milliseconds?]
  rcases ofJson? j with f | _ | ms <;> rfl

/-- Every value means one number of milliseconds or none, and is read as that unless it is refused.
A setting has none if it is absent or blank; if it is malformed it fails as a configuration does,
and if it is refused in a way of its own. -/
theorem durations_read (j setting : Json) :
    (∃! r, Means j r) ∧
    (∀ r, ofJson? j = .ok r ↔ Means j r ∧ ∀ f, ¬ Refused j f) ∧
    (∀ f, ofJson? j = .error f ↔ Refused j f) ∧
    (ofSetting j setting = .ok none ↔ isAbsent j = true) ∧
    (∀ ms, ofSetting j setting = .ok (some ms) ↔ Means j (some ms) ∧ ∀ f, ¬ Refused j f) ∧
    ∀ e, ofSetting j setting = .error e ↔
      (e = invalid j setting ∧ isAbsent j ≠ true ∧ Means j none ∧ ∀ f, ¬ Refused j f) ∨
        ∃ f, Refused j f ∧ e = f.failure := by
  refine ⟨?_, fun r => ofJson?_eq_ok_iff, fun f => ofJson?_eq_error_iff, ?_⟩
  · obtain ⟨r, hr⟩ := Means.exists j
    exact ⟨r, hr, fun r' hr' => hr'.unique hr⟩
  simp only [← ofJson?_eq_ok_iff]
  simp only [← ofJson?_eq_error_iff]
  by_cases habsent : isAbsent j = true
  · rw [ofSetting_of_isAbsent habsent, ofJson?_of_isAbsent habsent]
    simp [habsent]
  · rw [ofSetting_of_not_isAbsent habsent]
    rcases ofJson? j with f | _ | ms
    · simp [habsent, eq_comm]
    · simp [habsent, eq_comm]
    · simp [habsent]

/-- The long s makes the letters of a unit, but no unit. -/
theorem longS_unknown :
    ofJson? (.text "1\u017F") = .error (.unknownUnit "\u017F") ∧
    ofSetting (.text "1\u017F") (.text "timeout") =
      .error (.foreign (.missingKey (.text "\u017F"))) := by
  constructor
  · rfl
  · rfl

end Duration

end ResilientCalls
