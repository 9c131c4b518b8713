import Mathlib.Data.List.DropRight
import Mathlib.Data.List.Forall2
import Mathlib.Data.List.Perm.Subperm
import ResilientCalls.Proofs.Effect
import ResilientCalls.Proofs.StringMap.Balance
import ResilientCalls.Provider

namespace ResilientCalls

namespace CodePoints

theorem trim_eq_rdropWhile (ps : CodePoints) :
    ps.trim = (ps.dropWhile fun p => Text.isBlank p.toChar).rdropWhile
      fun p => Text.isBlank p.toChar := rfl

theorem trim_infix (ps : CodePoints) : ps.trim <:+: ps := by
  rw [trim_eq_rdropWhile]
  exact (List.rdropWhile_prefix _ _).isInfix.trans (List.dropWhile_suffix _).isInfix

end CodePoints

namespace StringMap

/-! ## Parts of a text -/

def fence : CodePoints := [tick, tick, tick]

theorem afterFence?_eq_some {ps rest : CodePoints} :
    afterFence? ps = some rest ↔ ps = fence ++ rest := by
  unfold afterFence? fence
  split
  · rename_i a b c more
    split
    · rename_i h
      obtain ⟨rfl, rfl, rfl⟩ := h
      simp
    · rename_i h
      simp only [List.cons_append, List.nil_append, List.cons.injEq, false_iff, reduceCtorEq]
      exact fun heq => h ⟨heq.1, heq.2.1, heq.2.2.1⟩
  · rename_i h
    simp only [reduceCtorEq, false_iff]
    rintro rfl
    exact h _ _ _ _ rfl

/-- The text is split at its first fence. -/
structure FirstFence (text before after : CodePoints) : Prop where
  split : text = before ++ (fence ++ after)
  first : ∀ before' after', text = before' ++ (fence ++ after') → before.length ≤ before'.length

theorem FirstFence.nil (after : CodePoints) : FirstFence (fence ++ after) [] after where
  split := rfl
  first before' _ _ := Nat.zero_le before'.length

/-- Where no fence begins, a text is split as its rest is. -/
theorem firstFence_cons {p : CodePoint} {text before after : CodePoints}
    (h : ∀ rest, p :: text ≠ fence ++ rest) : FirstFence (p :: text) before after ↔
      ∃ before', before = p :: before' ∧ FirstFence text before' after := by
  constructor
  · rintro ⟨hsplit, hfirst⟩
    cases before with
    | nil => exact absurd hsplit (h after)
    | cons q before =>
      obtain ⟨rfl, rfl⟩ := List.cons.inj hsplit
      refine ⟨before, rfl, rfl, ?_⟩
      intro before' after' heq
      have hle := hfirst (p :: before') after' (congrArg (List.cons p) heq)
      simpa using hle
  · rintro ⟨before', rfl, hsplit, hfirst⟩
    refine ⟨congrArg (List.cons p) hsplit, ?_⟩
    intro before'' after' heq
    cases before'' with
    | nil => exact absurd heq (h after')
    | cons q before'' =>
      obtain ⟨rfl, htext⟩ := List.cons.inj heq
      have hle := hfirst before'' after' htext
      simpa using hle

theorem splitFence?_eq_some_iff {done ps b after : CodePoints} :
    splitFence? done ps = some (b, after) ↔
      ∃ before, b = before.reverse ++ done ∧ FirstFence ps before after := by
  induction ps generalizing done with
  | nil =>
    constructor
    · intro h
      cases h
    · rintro ⟨before, -, hsplit, -⟩
      cases before <;> cases hsplit
  | cons p rest ih =>
    rw [splitFence?]
    cases hafter : afterFence? (p :: rest) with
    | some more =>
      have htext := afterFence?_eq_some.1 hafter
      constructor
      · intro h
        obtain ⟨rfl, rfl⟩ := Prod.mk.inj (Option.some.inj h)
        refine ⟨[], rfl, ?_⟩
        rw [htext]
        exact FirstFence.nil more
      · rintro ⟨before, rfl, hsplit, hfirst⟩
        have hnil : before = [] := by
          have hle := hfirst [] more htext
          exact List.length_eq_zero_iff.1 (Nat.le_zero.1 hle)
        subst hnil
        rw [htext] at hsplit
        rw [List.append_cancel_left hsplit]
        rfl
    | none =>
      have hnone : ∀ more, p :: rest ≠ fence ++ more := by
        intro more heq
        rw [afterFence?_eq_some.2 heq] at hafter
        cases hafter
      simp only [ih, firstFence_cons hnone]
      constructor
      · rintro ⟨before, rfl, hfirst⟩
        exact ⟨p :: before, by simp, before, rfl, hfirst⟩
      · rintro ⟨-, rfl, before, rfl, hfirst⟩
        exact ⟨before, by simp, hfirst⟩

/-- A text that is split at a fence is what is before it, the fence, and what is after it. -/
theorem eq_of_splitFence? {before ps b a : CodePoints}
    (h : splitFence? before ps = some (b, a)) :
    before.reverse ++ ps = b.reverse ++ (fence ++ a) := by
  obtain ⟨more, rfl, hsplit, -⟩ := splitFence?_eq_some_iff.1 h
  rw [hsplit]
  simp

/-- The block is the trimmed content of the first fence, without its header. -/
theorem fencedBlock?_eq_some_iff {text block : CodePoints} : fencedBlock? text = some block ↔
    ∃ before after body rest, FirstFence text before after ∧
      FirstFence (skipHeader after) body rest ∧ block = body.trim := by
  unfold fencedBlock?
  constructor
  · intro h
    split at h
    · cases h
    · rename_i b after hopening
      obtain ⟨⟨c, rest⟩, hclosing, rfl⟩ := Option.map_eq_some_iff.1 h
      obtain ⟨before, -, hbefore⟩ := splitFence?_eq_some_iff.1 hopening
      obtain ⟨body, rfl, hbody⟩ := splitFence?_eq_some_iff.1 hclosing
      exact ⟨before, after, body, rest, hbefore, hbody, by simp⟩
  · rintro ⟨before, after, body, rest, hbefore, hbody, rfl⟩
    rw [splitFence?_eq_some_iff.2 ⟨before, rfl, hbefore⟩]
    dsimp only
    rw [splitFence?_eq_some_iff.2 ⟨body, rfl, hbody⟩]
    simp

theorem skipOne_suffix (c : Char) (ps : CodePoints) : skipOne c ps <:+ ps := by
  cases ps with
  | nil => exact List.suffix_refl _
  | cons p rest =>
    rw [skipOne]
    split
    · exact List.suffix_cons p rest
    · exact List.suffix_refl _

theorem skipLabel_suffix (ps : CodePoints) : skipLabel ps <:+ ps := by
  unfold skipLabel
  split
  · split
    · exact ⟨[_, _, _, _], rfl⟩
    · exact List.suffix_refl _
  · exact List.suffix_refl _

theorem skipHeader_suffix (ps : CodePoints) : skipHeader ps <:+ ps :=
  (skipOne_suffix _ _).trans <| (skipOne_suffix _ _).trans <|
    (List.dropWhile_suffix _).trans (skipLabel_suffix ps)

theorem fencedBlock?_infix {ps c : CodePoints} (h : fencedBlock? ps = some c) : c <:+: ps := by
  obtain ⟨before, after, body, rest, hbefore, hbody, rfl⟩ := fencedBlock?_eq_some_iff.1 h
  have hinner : body <:+: skipHeader after := ⟨[], fence ++ rest, hbody.split.symm⟩
  have hafter : after <:+ ps := ⟨before ++ fence, by rw [hbefore.split, List.append_assoc]⟩
  have hheader := ((skipHeader_suffix after).trans hafter).isInfix
  exact body.trim_infix.trans (hinner.trans hheader)

/-- What is tried of a trimmed text: the text itself, the block of its first fence, and, unless it
begins with a brace, its first object. -/
inductive Candidate (text : CodePoints) : Origin → CodePoints → Prop
  | fullText : Candidate text .fullText text
  | fencedBlock {before after body rest : CodePoints} (hbefore : FirstFence text before after)
      (hbody : FirstFence (skipHeader after) body rest) : Candidate text .fencedBlock body.trim
  | embeddedObject {part : CodePoints} (hbrace : text.head? ≠ some (.char '{'))
      (h : FirstObject text part) : Candidate text .embeddedObject part

/-- The place of a candidate in the order in which they are tried. -/
def Origin.place : Origin → Nat
  | .fullText => 0
  | .fencedBlock => 1
  | .embeddedObject => 2

theorem candidate_iff {text c : CodePoints} {o : Origin} :
    Candidate text o c ↔ (o, c) ∈ candidates text := by
  unfold candidates
  simp only [List.cons_append, List.mem_cons, List.mem_append, List.mem_map, Option.mem_toList,
    Prod.mk.injEq]
  constructor
  · intro h
    cases h with
    | fullText => exact .inl ⟨rfl, rfl⟩
    | fencedBlock hbefore hbody =>
      have hblock := fencedBlock?_eq_some_iff.2 ⟨_, _, _, _, hbefore, hbody, rfl⟩
      exact .inr (.inl ⟨_, hblock, rfl, rfl⟩)
    | embeddedObject hbrace h =>
      rw [if_neg hbrace]
      simp [balancedObject?_eq_some_iff.2 h]
  · rintro (⟨rfl, rfl⟩ | ⟨_, hblock, rfl, rfl⟩ | hembedded)
    · exact .fullText
    · obtain ⟨_, _, _, _, hbefore, hbody, rfl⟩ := fencedBlock?_eq_some_iff.1 hblock
      exact .fencedBlock hbefore hbody
    · split at hembedded
      · cases hembedded
      · simp only [List.mem_map, Option.mem_toList, Prod.mk.injEq] at hembedded
        obtain ⟨_, hfound, rfl, rfl⟩ := hembedded
        exact .embeddedObject ‹_› (balancedObject?_eq_some_iff.1 hfound)

theorem Candidate.infix {text c : CodePoints} {o : Origin} (h : Candidate text o c) :
    c <:+: text := by
  cases h with
  | fullText => exact List.infix_refl _
  | fencedBlock hbefore hbody =>
    exact fencedBlock?_infix (fencedBlock?_eq_some_iff.2 ⟨_, _, _, _, hbefore, hbody, rfl⟩)
  | embeddedObject _ h =>
    obtain ⟨before, after, htext, -⟩ := h.place
    exact ⟨before, after, by rw [htext, List.append_assoc]⟩

theorem pairwise_candidates (text : CodePoints) :
    (candidates text).Pairwise fun x y => x.1.place < y.1.place := by
  unfold candidates
  cases fencedBlock? text with
  | none =>
    split
    · simp
    · cases balancedObject? text <;> simp [Origin.place]
  | some block =>
    split
    · simp [Origin.place]
    · cases balancedObject? text <;> simp [Origin.place]

/-! ## Candidates that read -/

/-- The candidate is the text of an object whose values are the texts of the map. -/
def Reads [Json.Depth] (c : CodePoints) (m : StringMap) : Prop :=
  Json.decode c = .ok (.object (m.map fun f => (f.1, .text f.2)))

theorem ofFields_eq_ok_iff {fields : List (CodePoints × Document)} {m : StringMap} :
    ofFields fields = .ok m ↔ fields = m.map fun f => (f.1, .text f.2) := by
  induction fields generalizing m with
  | nil => cases m <;> simp [ofFields]
  | cons field rest ih =>
    obtain ⟨name, j⟩ := field
    cases j with
    | text s =>
      rw [ofFields]
      cases m with
      | nil =>
        split <;> simp
      | cons f m =>
        rw [List.map_cons, List.cons.injEq, ← ih]
        obtain ⟨name', s'⟩ := f
        cases ofFields rest <;> simp
    | _ => cases m <;> simp [ofFields]

theorem ofCandidate_eq_ok_iff [Json.Depth] {c : CodePoints} {m : StringMap} :
    ofCandidate c = .ok m ↔ Reads c m := by
  unfold ofCandidate Reads
  split
  · simp [*]
  · rw [ofFields_eq_ok_iff]
    simp [*]
  · rename_i j hobject hj
    simp only [reduceCtorEq, false_iff]
    exact fun heq => hobject _ (Except.ok.inj (hj.symm.trans heq))

/-- The first of the candidates that reads as a map reads as this one. -/
def FirstReads [Json.Depth] (cs : List (Origin × CodePoints)) (m : StringMap) : Prop :=
  ∃ before o c after, cs = before ++ (o, c) :: after ∧ Reads c m ∧
    ∀ x ∈ before, ∀ m', ¬Reads x.2 m'

theorem not_firstReads_nil [Json.Depth] (m : StringMap) : ¬FirstReads [] m := by
  rintro ⟨before, o, c, after, hsplit, -⟩
  cases before <;> cases hsplit

theorem firstReads_cons [Json.Depth] {x : Origin × CodePoints} {cs : List (Origin × CodePoints)}
    {m : StringMap} :
    FirstReads (x :: cs) m ↔ Reads x.2 m ∨ (∀ m', ¬Reads x.2 m') ∧ FirstReads cs m := by
  constructor
  · rintro ⟨before, o, c, after, hsplit, hread, hbefore⟩
    cases before with
    | nil =>
      obtain ⟨rfl, rfl⟩ := List.cons.inj hsplit
      exact .inl hread
    | cons y before =>
      obtain ⟨rfl, rfl⟩ := List.cons.inj hsplit
      refine .inr ⟨hbefore x List.mem_cons_self, before, o, c, after, rfl, hread, ?_⟩
      exact fun y hy => hbefore y (List.mem_cons_of_mem x hy)
  · rintro (hread | ⟨hnone, before, o, c, after, rfl, hread, hbefore⟩)
    · exact ⟨[], x.1, x.2, cs, rfl, hread, fun y hy => absurd hy List.not_mem_nil⟩
    · refine ⟨x :: before, o, c, after, rfl, hread, ?_⟩
      rintro y (_ | ⟨_, hy⟩)
      · exact hnone
      · exact hbefore y hy

/-- Passing over candidates that repeat others hides none that reads. -/
theorem firstOf_distinct_eq_ok_iff [Json.Depth] {seen : List CodePoints}
    {cs : List (Origin × CodePoints)} {m : StringMap} (hseen : ∀ c ∈ seen, ∀ m', ¬Reads c m') :
    firstOf (distinct seen cs) = .ok m ↔ FirstReads cs m := by
  induction cs generalizing seen with
  | nil => simp [distinct, firstOf, not_firstReads_nil]
  | cons x cs ih =>
    obtain ⟨o, c⟩ := x
    rw [firstReads_cons, distinct]
    split
    · have hnone := hseen c ‹_›
      rw [ih hseen]
      simp [hnone]
    · rw [firstOf]
      cases hc : ofCandidate c with
      | ok m' =>
        have hsame : Reads c m ↔ m' = m := by rw [← ofCandidate_eq_ok_iff, hc, Except.ok.injEq]
        have hsome : ¬∀ m, ¬Reads c m := fun hnone => hnone m' (ofCandidate_eq_ok_iff.1 hc)
        simp [hsame, hsome]
      | error e =>
        have hnone : ∀ m', ¬Reads c m' := by
          intro m' hread
          rw [ofCandidate_eq_ok_iff.2 hread] at hc
          cases hc
        have hseen' : ∀ d ∈ c :: seen, ∀ m', ¬Reads d m' := by
          rintro d (_ | ⟨_, hd⟩)
          · exact hnone
          · exact hseen d hd
        have hrest := ih hseen'
        cases hfirst : firstOf (distinct (c :: seen) cs) with
        | ok m' =>
          rw [← hrest, hfirst]
          simp [hnone]
        | error reasons =>
          rw [← hrest, hfirst]
          simp [hnone]

theorem exists_firstReads [Json.Depth] {cs : List (Origin × CodePoints)} {x : Origin × CodePoints}
    {m : StringMap} (hx : x ∈ cs) (hread : Reads x.2 m) : ∃ m', FirstReads cs m' := by
  induction cs with
  | nil => cases hx
  | cons y cs ih =>
    by_cases hy : ∃ m', Reads y.2 m'
    · obtain ⟨m', hm'⟩ := hy
      exact ⟨m', firstReads_cons.2 (.inl hm')⟩
    · rcases List.mem_cons.1 hx with rfl | hx
      · exact absurd ⟨m, hread⟩ hy
      · obtain ⟨m', hm'⟩ := ih hx
        exact ⟨m', firstReads_cons.2 (.inr ⟨not_exists.1 hy, hm'⟩)⟩

/-! ## Candidates that are tried -/

theorem distinct_sublist (seen : List CodePoints) (cs : List (Origin × CodePoints)) :
    (distinct seen cs).Sublist cs := by
  induction cs generalizing seen with
  | nil => exact List.Sublist.slnil
  | cons x cs ih =>
    rw [distinct]
    split
    · exact (ih seen).cons x
    · exact (ih _).cons_cons x

theorem notMem_of_mem_distinct {seen : List CodePoints} {cs : List (Origin × CodePoints)}
    {x : Origin × CodePoints} (h : x ∈ distinct seen cs) : x.2 ∉ seen := by
  induction cs generalizing seen with
  | nil => cases h
  | cons y cs ih =>
    rw [distinct] at h
    split at h
    · exact ih h
    · rcases List.mem_cons.1 h with rfl | h
      · assumption
      · exact fun hmem => ih h (List.mem_cons_of_mem _ hmem)

theorem nodup_distinct (seen : List CodePoints) (cs : List (Origin × CodePoints)) :
    ((distinct seen cs).map (·.2)).Nodup := by
  induction cs generalizing seen with
  | nil => exact List.nodup_nil
  | cons x cs ih =>
    rw [distinct]
    split
    · exact ih seen
    · rw [List.map_cons, List.nodup_cons]
      refine ⟨fun hmem => ?_, ih _⟩
      obtain ⟨y, hy, heq⟩ := List.mem_map.1 hmem
      exact notMem_of_mem_distinct hy (heq ▸ List.mem_cons_self)

theorem mem_distinct_or_seen (seen : List CodePoints) {cs : List (Origin × CodePoints)}
    {x : Origin × CodePoints} (h : x ∈ cs) :
    x.2 ∈ (distinct seen cs).map (·.2) ∨ x.2 ∈ seen := by
  induction cs generalizing seen with
  | nil => cases h
  | cons y cs ih =>
    rw [distinct]
    rcases List.mem_cons.1 h with rfl | h
    · split
      · exact .inr ‹_›
      · exact .inl List.mem_cons_self
    · split
      · exact ih seen h
      · rcases ih (y.2 :: seen) h with hmem | hmem
        · exact .inl (List.mem_cons_of_mem _ hmem)
        · rcases List.mem_cons.1 hmem with heq | hmem
          · exact .inl (heq ▸ List.mem_cons_self)
          · exact .inr hmem

/-- A reason tells where its candidate was found and why it is none. -/
def Explains [Json.Depth] (x : Origin × CodePoints) (r : Reason) : Prop :=
  r.origin = x.1 ∧ ∃ e, ofCandidate x.2 = .error e ∧ r.message = e.message x.2

theorem forall₂_explains [Json.Depth] {cs : List (Origin × CodePoints)} {reasons : List Reason}
    (h : firstOf cs = .error reasons) : List.Forall₂ Explains cs reasons := by
  induction cs generalizing reasons with
  | nil =>
    obtain rfl := Except.error.inj h
    exact .nil
  | cons x cs ih =>
    rw [firstOf] at h
    split at h
    · cases h
    · split at h
      · cases h
      · obtain rfl := Except.error.inj h
        exact .cons ⟨rfl, _, ‹_›, rfl⟩ (ih ‹_›)

theorem origins_of_explained [Json.Depth] {cs : List (Origin × CodePoints)} {reasons : List Reason}
    (h : List.Forall₂ Explains cs reasons) : reasons.map (·.origin) = cs.map (·.1) := by
  induction h with
  | nil => rfl
  | cons hx _ ih => rw [List.map_cons, List.map_cons, hx.1, ih]

theorem origins_candidates (text : CodePoints) :
    ((candidates text).map (·.1)).Sublist [.fullText, .fencedBlock, .embeddedObject] := by
  unfold candidates
  cases fencedBlock? text with
  | none =>
    split
    · simp
    · cases balancedObject? text <;> simp
  | some block =>
    split
    · simp
    · cases balancedObject? text <;> simp

/-- Of candidates in order, that which is before another one is tried before it. -/
theorem firstReads_iff [Json.Depth] {cs : List (Origin × CodePoints)}
    (hcs : cs.Pairwise fun x y => x.1.place < y.1.place) {m : StringMap} :
    FirstReads cs m ↔ ∃ x ∈ cs, Reads x.2 m ∧
      ∀ y ∈ cs, y.1.place < x.1.place → ∀ m', ¬Reads y.2 m' := by
  constructor
  · rintro ⟨before, o, c, after, rfl, hread, hbefore⟩
    refine ⟨(o, c), by simp, hread, ?_⟩
    intro y hy hlt
    rcases List.mem_append.1 hy with hy | hy
    · exact hbefore y hy
    · obtain ⟨-, hafter, -⟩ := List.pairwise_append.1 hcs
      rcases List.mem_cons.1 hy with rfl | hy
      · exact absurd hlt (Nat.lt_irrefl _)
      · have hgt := (List.pairwise_cons.1 hafter).1 y hy
        omega
  · rintro ⟨x, hx, hread, hbefore⟩
    obtain ⟨before, after, rfl⟩ := List.append_of_mem hx
    refine ⟨before, x.1, x.2, after, rfl, hread, ?_⟩
    intro y hy
    obtain ⟨-, -, hlt⟩ := List.pairwise_append.1 hcs
    exact hbefore y (List.mem_append_left _ hy) (hlt y hy x List.mem_cons_self)

/-- What is recovered is what the first candidate that reads as a map reads as. -/
theorem recover_eq_ok_iff [Json.Depth] {text : CodePoints} {m : StringMap} :
    recover text = .ok m ↔ FirstReads (candidates text.trim) m :=
  firstOf_distinct_eq_ok_iff fun _ h => absurd h List.not_mem_nil

/-- An answer is read as the first of its candidates that reads as a map, which is a part of it, or
refused with the answer as it was given, and then no candidate reads as a map. A refusal has one
reason for each different candidate, the first of them for the whole text. -/
theorem recovered_or_refused [Json.Depth] {τ σ : Type} (raw : Option CodePoints) :
    (∀ m, recover (raw.getD []) = .ok m ↔ ∃ o c,
      Candidate (raw.getD []).trim o c ∧ c <:+: raw.getD [] ∧ Reads c m ∧
        ∀ o' c', Candidate (raw.getD []).trim o' c' → o'.place < o.place → ∀ m', ¬Reads c' m') ∧
    ∀ w : World τ σ,
      (∃ m, recover (raw.getD []) = .ok m ∧ Provider.readMap (raw.getD []) w = (.ok m, w)) ∨
      ∃ reasons w' tried,
        Provider.readMap (raw.getD []) w =
          (.error (.failed (.unreadable (raw.getD []) reasons)), w') ∧
        (∀ o c, Candidate (raw.getD []).trim o c →
          (∀ m, ¬Reads c m) ∧ c ∈ tried.map Prod.snd) ∧
        (∀ x ∈ tried, Candidate (raw.getD []).trim x.1 x.2) ∧ (tried.map Prod.snd).Nodup ∧
        List.Forall₂ (fun x r => r.1 = x.1.label ∧ ∃ e, ofCandidate x.2 = .error e ∧
          r.2 = e.message x.2) tried reasons ∧
        (reasons.map (·.1)).Sublist ["full_text", "fenced_block", "embedded_object"] ∧
        (reasons.map (·.1)).head? = some "full_text" := by
  generalize raw.getD [] = text
  refine ⟨fun m => ?_, fun w => ?_⟩
  · rw [recover_eq_ok_iff, firstReads_iff (pairwise_candidates _)]
    constructor
    · rintro ⟨x, hx, hread, hbefore⟩
      have hc := candidate_iff.2 hx
      refine ⟨x.1, x.2, hc, hc.infix.trans text.trim_infix, hread, ?_⟩
      intro o' c' hc'
      exact hbefore (o', c') (candidate_iff.1 hc')
    · rintro ⟨o, c, hc, -, hread, hbefore⟩
      refine ⟨(o, c), candidate_iff.1 hc, hread, ?_⟩
      intro y hy
      exact hbefore y.1 y.2 (candidate_iff.2 hy)
  · cases hrecover : recover text with
    | ok m =>
      refine .inl ⟨m, rfl, ?_⟩
      rw [Provider.readMap, hrecover]
      rfl
    | error reasons =>
      have hnone : ∀ x ∈ candidates text.trim, ∀ m, ¬Reads x.2 m := by
        intro x hx m hread
        obtain ⟨m', hm'⟩ := exists_firstReads hx hread
        rw [recover_eq_ok_iff.2 hm'] at hrecover
        cases hrecover
      have hexplained := forall₂_explains hrecover
      have hlabels : (reasons.map fun r => (r.origin.label, r.message)).map (·.1) =
          ((distinct [] (candidates text.trim)).map (·.1)).map Origin.label := by
        rw [← origins_of_explained hexplained, List.map_map, List.map_map]
        rfl
      have hrefused : (Provider.readMap text w).1 = .error (.failed
          (.unreadable text (reasons.map fun r => (r.origin.label, r.message)))) := by
        rw [Provider.readMap, hrecover]
        rfl
      have hsub := distinct_sublist [] (candidates text.trim)
      refine .inr ⟨_, (Provider.readMap text w).2, distinct [] (candidates text.trim),
        Prod.ext hrefused rfl, fun o c hc => ?_, fun x hx => ?_, nodup_distinct _ _, ?_, ?_, ?_⟩
      · have hx := candidate_iff.1 hc
        exact ⟨hnone (o, c) hx, (mem_distinct_or_seen [] hx).resolve_right List.not_mem_nil⟩
      · exact candidate_iff.2 (hsub.subset hx)
      · rw [List.forall₂_map_right_iff]
        refine hexplained.imp fun x r hr => ?_
        obtain ⟨horigin, hwhy⟩ := hr
        exact ⟨by rw [horigin], hwhy⟩
      · rw [hlabels]
        exact ((hsub.map _).trans (origins_candidates _)).map Origin.label
      · rw [hlabels]
        rfl

namespace Tried

/-- An object with a number in it, and a fence with a map. -/
def fenced : CodePoints :=
  .ofString "Like \x7b\"a\": 1\x7d:\n\x60\x60\x60json\n\x7b\"b\": \"c\"\x7d\n\x60\x60\x60"

def embedded : CodePoints := .ofString "Here: \x7b\"b\": \"c\"\x7d."

/-- Neither the fenced list nor the object is a map. -/
def refused : CodePoints := .ofString "\x60\x60\x60[1]\x60\x60\x60 and \x7b\"a\": 1\x7d"

def block : CodePoints := .ofString "\x7b\"b\": \"c\"\x7d"

def map : StringMap := [(.ofString "b", .ofString "c")]

theorem recovered_or_refused_tried :
    (Candidate fenced.trim .fencedBlock block ∧ recover fenced = .ok map) ∧
    (Candidate embedded.trim .embeddedObject block ∧ recover embedded = .ok map) ∧
    ∃ reasons w', Provider.readMap refused (World.start 0 () : World Number Unit) =
        (.error (.failed (.unreadable refused reasons)), w') ∧
      reasons.map (·.1) = ["full_text", "fenced_block", "embedded_object"] := by
  have hblock : Reads block map := ofCandidate_eq_ok_iff.1 rfl
  have hfirst : ∀ {text : CodePoints} {o : Origin}, Candidate text.trim o block →
      (∀ x ∈ candidates text.trim, x.1.place < o.place → (ofCandidate x.2).isOk = false) →
      recover text = .ok map := by
    intro text o hc hbefore
    apply ((recovered_or_refused (τ := Number) (σ := Unit) (some text)).1 map).2
    refine ⟨o, block, hc, hc.infix.trans text.trim_infix, hblock, ?_⟩
    intro o' c' hc' hlt m' hread
    have hnone := hbefore (o', c') (candidate_iff.1 hc') hlt
    rw [ofCandidate_eq_ok_iff.2 hread] at hnone
    cases hnone
  have hfenced : Candidate fenced.trim .fencedBlock block := candidate_iff.2 (by decide)
  have hembedded : Candidate embedded.trim .embeddedObject block := candidate_iff.2 (by decide)
  refine ⟨⟨hfenced, hfirst hfenced (by decide)⟩, ⟨hembedded, hfirst hembedded (by decide)⟩, ?_⟩
  rcases (recovered_or_refused (some refused)).2 (World.start 0 () : World Number Unit) with
    ⟨m, hm, -⟩ | ⟨reasons, w', tried, hread, hall, -, -, hreasons, hsub, -⟩
  · have hnone : (recover refused).toOption = none := by decide
    rw [show recover refused = .ok m from hm] at hnone
    cases hnone
  · refine ⟨reasons, w', hread, ?_⟩
    -- each of the three candidates is another one, so there are three reasons
    have hthree : ((candidates refused.trim).map Prod.snd).length ≤
        (tried.map Prod.snd).length := by
      apply (List.subperm_of_subset (by decide) ?_).length_le
      intro c hc
      obtain ⟨x, hx, rfl⟩ := List.mem_map.1 hc
      exact (hall x.1 x.2 (candidate_iff.2 hx)).2
    have hcount : (candidates refused.trim).length = 3 := by decide
    have hlength := hreasons.length_eq
    apply hsub.eq_of_length_le
    rw [List.length_map, List.length_map, hcount] at hthree
    rw [List.length_map, ← hlength]
    exact hthree

end Tried

end StringMap

end ResilientCalls
