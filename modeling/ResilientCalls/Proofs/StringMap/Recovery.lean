import ResilientCalls.Proofs.Json.Reading
import ResilientCalls.Proofs.StringMap.Candidates

namespace ResilientCalls

namespace CodePoints

/-- A text of blanks. -/
def Blank (ps : CodePoints) : Prop := ∀ p ∈ ps, Text.isBlank p.toChar = true

instance (ps : CodePoints) : Decidable (Blank ps) :=
  inferInstanceAs (Decidable (∀ p ∈ ps, Text.isBlank p.toChar = true))

theorem dropWhile_append_of_head {f : CodePoint → Bool} {qs : CodePoints} {q : CodePoint}
    (hq : qs.head? = some q) (hf : f q = false) (ps : CodePoints) :
    (ps ++ qs).dropWhile f = ps.dropWhile f ++ qs := by
  induction ps with
  | nil =>
    obtain ⟨rest, rfl⟩ := List.head?_eq_some_iff.1 hq
    simp [hf]
  | cons p ps ih =>
    rw [List.cons_append, List.dropWhile_cons, List.dropWhile_cons, ih]
    split <;> rfl

theorem rdropWhile_append_of_getLast {f : CodePoint → Bool} {ps : CodePoints} {p : CodePoint}
    (hp : ps.getLast? = some p) (hf : f p = false) (qs : CodePoints) :
    (ps ++ qs).rdropWhile f = ps ++ qs.rdropWhile f := by
  unfold List.rdropWhile
  rw [List.reverse_append, dropWhile_append_of_head (by rw [List.head?_reverse, hp]) hf]
  simp

/-- Trimming keeps what begins and ends with characters that are not blank. -/
theorem trim_append {ps : CodePoints} {p q : CodePoint} (hp : ps.head? = some p)
    (hq : ps.getLast? = some q) (hpb : Text.isBlank p.toChar = false)
    (hqb : Text.isBlank q.toChar = false) (before after : CodePoints) :
    (before ++ ps ++ after).trim = before.dropWhile (fun p => Text.isBlank p.toChar) ++ ps ++
      after.rdropWhile fun p => Text.isBlank p.toChar := by
  have hne : ps ≠ [] := by
    rintro rfl
    cases hp
  rw [trim_eq_rdropWhile, List.append_assoc, dropWhile_append_of_head (q := p) _ hpb,
    ← List.append_assoc, rdropWhile_append_of_getLast (p := q) _ hqb]
  · rw [List.getLast?_append, hq]
    rfl
  · rw [List.head?_append, hp]
    rfl

theorem Blank.dropWhile {ps : CodePoints} (h : Blank ps) :
    ps.dropWhile (fun p => Text.isBlank p.toChar) = [] :=
  List.dropWhile_eq_nil_iff.2 h

theorem Blank.rdropWhile {ps : CodePoints} (h : Blank ps) :
    ps.rdropWhile (fun p => Text.isBlank p.toChar) = [] :=
  List.rdropWhile_eq_nil_iff.2 h

theorem isBlank_of_isSpace {c : Char} (h : Json.Reader.isSpace c = true) :
    Text.isBlank c = true := by
  simp only [Json.Reader.isSpace, Bool.or_eq_true, decide_eq_true_eq] at h
  rcases h with ((rfl | rfl) | rfl) | rfl <;> decide

theorem dropWhile_of_not_blank {ps : CodePoints} (h : ¬Blank ps) :
    ∃ p rest, ps.dropWhile (fun p => Text.isBlank p.toChar) = p :: rest ∧ p ∈ ps ∧
      Text.isBlank p.toChar = false := by
  cases hdrop : ps.dropWhile fun p => Text.isBlank p.toChar with
  | nil => exact absurd (List.dropWhile_eq_nil_iff.1 hdrop) h
  | cons p rest =>
    have hmem : p ∈ ps := (List.dropWhile_suffix _).subset (hdrop ▸ List.mem_cons_self)
    have hhead := List.head?_dropWhile_not (fun p : CodePoint => Text.isBlank p.toChar) ps
    rw [hdrop] at hhead
    exact ⟨p, rest, rfl, hmem, by simpa using hhead⟩

/-- What begins with a character that is not blank is trimmed at its end only. -/
theorem trim_prefix {p : CodePoint} (hp : Text.isBlank p.toChar = false) (ps : CodePoints) :
    trim (p :: ps) <+: p :: ps := by
  rw [trim_eq_rdropWhile, List.dropWhile_cons_of_neg (by simp [hp])]
  exact List.rdropWhile_prefix _ _

end CodePoints

namespace StringMap

open CodePoints (Blank)

theorem afterFence?_append {ps rest : CodePoints} (h : afterFence? ps = some rest)
    (qs : CodePoints) : afterFence? (ps ++ qs) = some (rest ++ qs) := by
  rw [afterFence?_eq_some] at h ⊢
  rw [h, List.append_assoc]

theorem afterFence?_append_of_long {a b c : CodePoint} {ps : CodePoints}
    (h : afterFence? (a :: b :: c :: ps) = none) (qs : CodePoints) :
    afterFence? (a :: b :: c :: (ps ++ qs)) = none := by
  simp only [afterFence?, ite_eq_right_iff, reduceCtorEq, imp_false] at h ⊢
  exact h

theorem afterFence?_cons_of_ne {p : CodePoint} (hp : p ≠ tick) (ps : CodePoints) :
    afterFence? (p :: ps) = none := by
  rcases ps with _ | ⟨d, _ | ⟨e, ps⟩⟩ <;> simp [afterFence?, hp]

/-- No fence begins in a text that does not end in a backquote and ends after it. -/
theorem afterFence?_append_of_none (ps : CodePoints) {p : CodePoint}
    (h : afterFence? (ps ++ [p]) = none) (hp : p ≠ tick) (qs : CodePoints) :
    afterFence? (ps ++ p :: qs) = none := by
  rcases ps with _ | ⟨a, _ | ⟨b, _ | ⟨c, ps⟩⟩⟩
  · exact afterFence?_cons_of_ne hp qs
  · rcases qs with _ | ⟨d, qs⟩
    · rfl
    · simp [afterFence?, hp]
  · simp [afterFence?, hp]
  · simpa using afterFence?_append_of_long h qs

theorem splitFence?_append {before ps b a : CodePoints} (h : splitFence? before ps = some (b, a))
    (qs : CodePoints) : splitFence? before (ps ++ qs) = some (b, a ++ qs) := by
  induction ps generalizing before with
  | nil => cases h
  | cons p ps ih =>
    rw [splitFence?] at h
    rw [List.cons_append, splitFence?]
    cases hafter : afterFence? (p :: ps) with
    | some rest =>
      rw [hafter] at h
      rw [← List.cons_append, afterFence?_append hafter]
      obtain ⟨rfl, rfl⟩ := Prod.mk.inj (Option.some.inj h)
      rfl
    | none =>
      rw [hafter] at h
      -- there is a fence later on, so that the text is long enough to tell that none begins here
      rcases ps with _ | ⟨d, _ | ⟨e, ps⟩⟩
      · cases h
      · cases h
      · have hnone : afterFence? (p :: (d :: e :: ps ++ qs)) = none :=
          afterFence?_append_of_long hafter qs
        rw [hnone]
        exact ih h

/-- A text without a fence that does not end in a backquote is passed over. -/
theorem splitFence?_append_of_none {before : CodePoints} (ps : CodePoints) {p : CodePoint}
    (h : splitFence? before (ps ++ [p]) = none) (hp : p ≠ tick) (qs : CodePoints) :
    splitFence? before (ps ++ p :: qs) = splitFence? (p :: (ps.reverse ++ before)) qs := by
  induction ps generalizing before with
  | nil =>
    rw [List.nil_append, splitFence?, afterFence?_cons_of_ne hp]
    rfl
  | cons d ps ih =>
    rw [List.cons_append, splitFence?] at h
    rw [List.cons_append, splitFence?]
    cases hafter : afterFence? (d :: (ps ++ [p])) with
    | some rest =>
      rw [hafter] at h
      cases h
    | none =>
      rw [hafter] at h
      have hnone : afterFence? (d :: (ps ++ p :: qs)) = none :=
        afterFence?_append_of_none (d :: ps) hafter hp qs
      rw [hnone, ih h]
      simp

/-- A text without backquotes is passed over up to the fence after it. -/
theorem splitFence?_fence {ps : CodePoints} (h : tick ∉ ps) (before rest : CodePoints) :
    splitFence? before (ps ++ (fence ++ rest)) = some (ps.reverse ++ before, rest) := by
  induction ps generalizing before with
  | nil => rfl
  | cons p ps ih =>
    rw [List.mem_cons, not_or] at h
    rw [List.cons_append, splitFence?, afterFence?_cons_of_ne (Ne.symm h.1)]
    dsimp only
    rw [ih h.2]
    simp

theorem fencedBlock?_eq_none {ps : CodePoints} (h : ¬fence <:+: ps) : fencedBlock? ps = none := by
  unfold fencedBlock?
  split
  · rfl
  · rename_i b after hopening
    have hsplit := eq_of_splitFence? hopening
    refine absurd ⟨b.reverse, after, ?_⟩ h
    rw [List.append_assoc, ← hsplit]
    rfl

/-- The label of a fence: none, or the word that stands for JSON. -/
def Label (ps : CodePoints) : Prop :=
  ps = [] ∨ ∃ a b c d, ps = [a, b, c, d] ∧ isLetter 'j' a = true ∧ isLetter 's' b = true ∧
    isLetter 'o' c = true ∧ isLetter 'n' d = true

theorem skipLabel_of_not_letter {p : CodePoint} (h : isLetter 'j' p = false) (ps : CodePoints) :
    skipLabel (p :: ps) = p :: ps := by
  unfold skipLabel
  split
  · rename_i heq
    obtain ⟨rfl, rfl⟩ := List.cons.inj heq
    simp [h]
  · rfl

/-- What follows a fence is skipped up to its line's end. -/
theorem skipHeader_header {label spaces : CodePoints} (hlabel : Label label)
    (hspaces : ∀ p ∈ spaces, p = ' ' ∨ p = '\t') (rest : CodePoints) :
    skipHeader (label ++ (spaces ++ .char '\n' :: rest)) = rest := by
  have hskip : skipLabel (label ++ (spaces ++ .char '\n' :: rest)) =
      spaces ++ .char '\n' :: rest := by
    rcases hlabel with rfl | ⟨a, b, c, d, rfl, ha, hb, hc, hd⟩
    · rcases spaces with _ | ⟨p, spaces⟩
      · exact skipLabel_of_not_letter (by decide) rest
      · refine skipLabel_of_not_letter ?_ _
        rcases hspaces p List.mem_cons_self with rfl | rfl <;> decide
    · simp [skipLabel, ha, hb, hc, hd]
  have hdrop : (spaces ++ .char '\n' :: rest).dropWhile
      (fun p : CodePoint => p = .char ' ' || p = .char '\t') = .char '\n' :: rest := by
    rw [List.dropWhile_append_of_pos]
    · simp
    · simpa using hspaces
  rw [skipHeader, hskip, hdrop]
  rfl

theorem notMem_header {label spaces : CodePoints} (hlabel : Label label)
    (hspaces : ∀ p ∈ spaces, p = ' ' ∨ p = '\t') {p : CodePoint}
    (hp : p = .char '"' ∨ p = .char '\x7b') : p ∉ label ++ spaces := by
  intro hmem
  rcases List.mem_append.1 hmem with hmem | hmem
  · rcases hlabel with rfl | ⟨a, b, c, d, rfl, ha, hb, hc, hd⟩
    · cases hmem
    · simp only [List.mem_cons, List.not_mem_nil, or_false] at hmem
      rcases hmem with rfl | rfl | rfl | rfl
      · rcases hp with rfl | rfl <;> cases ha
      · rcases hp with rfl | rfl <;> cases hb
      · rcases hp with rfl | rfl <;> cases hc
      · rcases hp with rfl | rfl <;> cases hd
  · rcases hspaces p hmem with rfl | rfl <;> rcases hp with hp | hp <;> cases hp

/-- The text of an object, which begins and ends with its braces. -/
structure Braced [Json.Depth] (j : CodePoints) (m : StringMap) : Prop where
  opens : j.head? = some (.char '\x7b')
  closes : j.getLast? = some (.char '\x7d')
  reads : Reads j m

namespace Braced

variable [Json.Depth] {j : CodePoints} {m : StringMap} (hj : Braced j m)

include hj

theorem exists_eq : ∃ ps, j = .char '\x7b' :: (ps ++ [.char '\x7d']) := by
  obtain ⟨rest, rfl⟩ := List.head?_eq_some_iff.1 hj.opens
  obtain ⟨before, hbefore⟩ := List.getLast?_eq_some_iff.1 hj.closes
  rcases before with _ | ⟨p, before⟩
  · cases hbefore
  · obtain ⟨rfl, rfl⟩ := List.cons.inj hbefore
    exact ⟨before, rfl⟩

/-- Trimming a text that such a text is in leaves that text as it is. -/
theorem trim_append (before after : CodePoints) : (before ++ j ++ after).trim =
    before.dropWhile (fun p => Text.isBlank p.toChar) ++ j ++
      after.rdropWhile fun p => Text.isBlank p.toChar :=
  CodePoints.trim_append hj.opens hj.closes (by decide) (by decide) before after

/-- A part that the text begins with, short of the whole of it, reads as no map. -/
theorem not_reads_of_prefix {ps : CodePoints} {q : CodePoint} (hps : ps ++ [q] <+: j)
    (m' : StringMap) : ¬Reads ps.trim m' := by
  obtain ⟨qs, rfl⟩ := hj.exists_eq
  intro hread
  have hprefix : ps <+: .char '\x7b' :: qs := by
    have hps : ps ++ [q] <+: (.char '\x7b' :: qs) ++ [.char '\x7d'] := hps
    rcases List.prefix_concat_iff.1 hps with heq | hprefix
    · exact (List.append_inj_left' heq rfl).symm ▸ List.prefix_refl _
    · exact (List.prefix_append ps [q]).trans hprefix
  have htrim : ps.trim <+: ps := by
    rcases List.prefix_cons_iff.1 hprefix with rfl | ⟨ps, rfl, -⟩
    · exact List.prefix_refl _
    · exact CodePoints.trim_prefix (by decide) ps
  exact Json.decode_ne_ok_of_prefix (by decide) hj.reads (htrim.trans hprefix) hread

/-- The block of a fence around the text is the text, unless the text has a fence itself; then it is
a part that the text begins with. -/
theorem fencedBlock?_eq {before label spaces w : CodePoints} (hbefore : tick ∉ before)
    (hlabel : Label label) (hspaces : ∀ p ∈ spaces, p = ' ' ∨ p = '\t') (hw : Blank w)
    (after : CodePoints) :
    ∃ c, fencedBlock? (before ++ (fence ++ (label ++ (spaces ++ .char '\n' ::
        (j ++ (w ++ (fence ++ after))))))) = some c ∧ (c = j ∨ ∀ m', ¬Reads c m') := by
  unfold fencedBlock?
  rw [splitFence?_fence hbefore]
  dsimp only
  rw [skipHeader_header hlabel hspaces]
  cases hinner : splitFence? [] j with
  | some split =>
    obtain ⟨b, a⟩ := split
    rw [splitFence?_append hinner]
    refine ⟨_, rfl, .inr (hj.not_reads_of_prefix (q := tick) ⟨tick :: tick :: a, ?_⟩)⟩
    simpa [fence] using (eq_of_splitFence? hinner).symm
  | none =>
    have hwtick : tick ∉ w := fun hmem => absurd (hw tick hmem) (by decide)
    obtain ⟨ps, hps⟩ := hj.exists_eq
    have hsplit : splitFence? [] (j ++ (w ++ (fence ++ after))) =
        some (w.reverse ++ j.reverse, after) := by
      rw [hps] at hinner ⊢
      have hskip := splitFence?_append_of_none (.char '\x7b' :: ps) hinner (by decide)
        (w ++ (fence ++ after))
      rw [splitFence?_fence hwtick] at hskip
      simpa using hskip
    rw [hsplit]
    refine ⟨_, rfl, .inl ?_⟩
    dsimp only
    rw [List.reverse_append, List.reverse_reverse, List.reverse_reverse]
    have htrim := hj.trim_append [] w
    rw [hw.rdropWhile] at htrim
    simpa using htrim

theorem recover_blank {before after : CodePoints} (hbefore : Blank before) (hafter : Blank after) :
    recover (before ++ j ++ after) = .ok m := by
  have htrim : (before ++ j ++ after).trim = j := by
    rw [hj.trim_append, hbefore.dropWhile, hafter.rdropWhile]
    simp
  rw [recover_eq_ok_iff, htrim]
  exact firstReads_cons.2 (.inl hj.reads)

/-- The text is recovered from another one that reads as no map, if it is the object in that one,
and the block in that one is the text or reads as no map either. -/
theorem recover_of_embedded {text trimmed : CodePoints} (htrim : text.trim = trimmed)
    (hhead : trimmed.head? ≠ some (.char '\x7b')) (hfull : ∀ m', ¬Reads trimmed m')
    (hblock : ∀ c, fencedBlock? trimmed = some c → c = j ∨ ∀ m', ¬Reads c m')
    (hfound : balancedObject? trimmed = some j) : recover text = .ok m := by
  have hembedded : FirstReads [(.embeddedObject, j)] m := firstReads_cons.2 (.inl hj.reads)
  rw [recover_eq_ok_iff, htrim, candidates, if_neg hhead, hfound]
  refine firstReads_cons.2 (.inr ⟨hfull, ?_⟩)
  cases hc : fencedBlock? trimmed with
  | none => exact hembedded
  | some c =>
    rcases hblock c hc with rfl | hnone
    · exact firstReads_cons.2 (.inl hj.reads)
    · exact firstReads_cons.2 (.inr ⟨hnone, hembedded⟩)

theorem balancedObject?_eq {before : CodePoints} (hbefore : .char '\x7b' ∉ before)
    (after : CodePoints) : balancedObject? (before ++ j ++ after) = some j := by
  obtain ⟨ps, rfl⟩ := hj.exists_eq
  exact Json.balancedObject?_of_decode (by decide) hj.reads hbefore

/-- A fence around the text is left out, whatever comes after it. -/
theorem recover_fenced {before label spaces w : CodePoints} (hbrace : .char '\x7b' ∉ before)
    (htick : tick ∉ before) (hlabel : Label label) (hspaces : ∀ p ∈ spaces, p = ' ' ∨ p = '\t')
    (hw : Blank w) (after : CodePoints) :
    recover (before ++ (fence ++ label ++ spaces ++ [.char '\n']) ++ j ++ w ++ fence ++ after) =
      .ok m := by
  have hlast : (fence ++ label ++ spaces ++ [CodePoint.char '\n'] ++ j ++ w ++ fence).getLast? =
      some tick := by
    rw [List.getLast?_append]
    rfl
  have htrim := CodePoints.trim_append (p := tick) rfl hlast (by decide) (by decide) before after
  simp only [List.append_assoc, List.cons_append, List.nil_append] at htrim ⊢
  -- what is trimmed off holds neither braces nor backquotes
  generalize hstart : before.dropWhile (fun p => Text.isBlank p.toChar) = start at htrim
  generalize after.rdropWhile (fun p => Text.isBlank p.toChar) = rest at htrim
  have hsubset : start ⊆ before := hstart ▸ (List.dropWhile_suffix _).subset
  obtain ⟨c, hblock, hc⟩ := hj.fencedBlock?_eq (fun hmem => htick (hsubset hmem)) hlabel hspaces hw
    rest
  refine hj.recover_of_embedded htrim ?_ (fun m' hread => ?_) (fun d hd => ?_) ?_
  · rcases start with _ | ⟨p, start⟩
    · rw [List.nil_append, fence, List.cons_append, List.head?_cons]
      decide
    · rw [List.cons_append, List.head?_cons]
      intro heq
      exact hbrace (hsubset (Option.some.inj heq ▸ List.mem_cons_self))
  · have hquote : .char '"' ∉ tick :: tick :: (label ++ spaces) := by
      simp only [List.mem_cons, notMem_header hlabel hspaces (.inl rfl), or_false]
      decide
    have hfull : start ++ (fence ++ (label ++ (spaces ++
        .char '\n' :: (j ++ (w ++ (fence ++ rest)))))) = start ++ (tick :: tick :: tick ::
          (label ++ spaces) ++ .char '\n' :: (j ++ (w ++ (fence ++ rest)))) := by
      simp [fence]
    rw [hfull] at hread
    exact Json.decode_tick_ne_ok hquote hread
  · rw [hblock] at hd
    exact Option.some.inj hd ▸ hc
  · have hnone : .char '\x7b' ∉ start ++ (fence ++ (label ++ spaces ++ [.char '\n'])) := by
      simp only [List.mem_append, not_or]
      refine ⟨fun hmem => hbrace (hsubset hmem), by decide, ?_, by decide⟩
      simpa [not_or] using notMem_header hlabel hspaces (.inr rfl)
    simpa using hj.balancedObject?_eq hnone (w ++ (fence ++ rest))

/-- Text around the text is left out if there is no fence. -/
theorem recover_embedded {before after : CodePoints} (hbrace : .char '\x7b' ∉ before)
    (hbefore : ¬Blank before) (hfence : ¬fence <:+: before ++ j ++ after) :
    recover (before ++ j ++ after) = .ok m := by
  have htrim := hj.trim_append before after
  obtain ⟨p, rest, hdrop, hmem, hblank⟩ := CodePoints.dropWhile_of_not_blank hbefore
  have hp : p ≠ .char '\x7b' := fun heq => hbrace (heq ▸ hmem)
  have hspace : Json.Reader.isSpace p.toChar = false := by
    by_contra hspace
    rw [CodePoints.isBlank_of_isSpace (by simpa using hspace)] at hblank
    cases hblank
  refine hj.recover_of_embedded htrim ?_ (fun m' hread => ?_) (fun c hc => ?_) ?_
  · rw [hdrop]
    simpa using hp
  · rw [hdrop] at hread
    exact hp (Json.opening_of_decode hspace hread rfl)
  · rw [fencedBlock?_eq_none] at hc
    · cases hc
    · rw [← htrim]
      exact fun hpart => hfence (hpart.trans (CodePoints.trim_infix _))
  · refine hj.balancedObject?_eq (fun hmem => hbrace ?_) _
    exact (List.dropWhile_suffix _).subset hmem

end Braced

/-- A string map is recovered from the text of an object that has blanks around it, that stands in
a fence before which there is neither a brace nor a backquote, or that has text before and after it
in which there is neither a brace before it nor a fence. What the fence holds may hold fences. -/
theorem recover_wrapped [Json.Depth] {j : CodePoints} {m : StringMap}
    (hopen : j.head? = some (.char '\x7b')) (hclose : j.getLast? = some (.char '\x7d'))
    (hread : Reads j m) :
    (∀ before after, Blank before → Blank after → recover (before ++ j ++ after) = .ok m) ∧
    (∀ before label spaces w after, .char '\x7b' ∉ before → tick ∉ before → Label label →
      (∀ p ∈ spaces, p = .char ' ' ∨ p = .char '\t') → Blank w →
      recover (before ++ (fence ++ label ++ spaces ++ [.char '\n']) ++ j ++ w ++ fence ++ after) =
        .ok m) ∧
    ∀ before after, .char '\x7b' ∉ before → ¬Blank before → ¬fence <:+: before ++ j ++ after →
      recover (before ++ j ++ after) = .ok m := by
  have hj : Braced j m := ⟨hopen, hclose, hread⟩
  refine ⟨fun before after hbefore hafter => ?_, ?_, fun before after hbrace hbefore hfence => ?_⟩
  · exact hj.recover_blank hbefore hafter
  · intro before label spaces w after hbrace htick hlabel hspaces hw
    exact hj.recover_fenced hbrace htick hlabel hspaces hw after
  · exact hj.recover_embedded hbrace hbefore hfence

namespace Wrapped

/-- The text of an object, of which a value holds a fence, a quote and braces. -/
def fenced : CodePoints := .ofString "\x7b\"code\": \"```\\\" \x7d\x7b\"\x7d"

def plain : CodePoints := .ofString "\x7b\"a\": \"b\"\x7d"

def code : StringMap := [(.ofString "code", .ofString "```\" \x7d\x7b")]

def letters : StringMap := [(.ofString "a", .ofString "b")]

theorem reads_fenced : Reads fenced code :=
  ofCandidate_eq_ok_iff.1 (eq_ok_of_toOption (by decide +kernel))

theorem reads_plain : Reads plain letters :=
  ofCandidate_eq_ok_iff.1 (eq_ok_of_toOption (by decide +kernel))

theorem recover_wrapped_fenced :
    recover (.ofString " \n" ++ fenced ++ .ofString "\t") = .ok code ∧
    recover (.ofString "Here:\n" ++
      (fence ++ .ofString "JSON" ++ .ofString " \t" ++ [.char '\n']) ++ fenced ++
      .ofString "\n" ++ fence ++ .ofString "Done: ```") = .ok code ∧
    recover (.ofString "Here: " ++ plain ++ .ofString " and \x7b\x7d") = .ok letters := by
  have hlabel : Label (.ofString "JSON") :=
    .inr ⟨'J', 'S', 'O', 'N', by decide +kernel, by decide, by decide, by decide, by decide⟩
  obtain ⟨hblank, hfenced, -⟩ :=
    recover_wrapped (by decide +kernel) (by decide +kernel) reads_fenced
  obtain ⟨-, -, hembedded⟩ := recover_wrapped (by decide +kernel) (by decide +kernel) reads_plain
  refine ⟨hblank _ _ (by decide +kernel) (by decide +kernel), ?_, ?_⟩
  · exact hfenced _ _ _ _ _ (by decide +kernel) (by decide +kernel) hlabel (by decide +kernel)
      (by decide +kernel)
  · exact hembedded _ _ (by decide +kernel) (by decide +kernel) (by decide +kernel)

end Wrapped

end StringMap

end ResilientCalls
