import Mathlib.Data.List.Chain
import Mathlib.Data.List.TakeDrop
import ResilientCalls.Proofs.Text
import ResilientCalls.Summary.Extract

namespace ResilientCalls.Summary

open Text

/-- No blank follows a terminator. -/
def Unbroken (s : List Char) : Prop :=
  s.IsChain fun c d => isTerminator c = true → isBlank d = false

structure IsSentence (s : List Char) : Prop extends Trimmed s where
  unbroken : Unbroken s

/-- Does the last character end a sentence? -/
def Terminated (s : List Char) : Prop := ∃ c ∈ s.getLast?, isTerminator c = true

/-- A text and its sentences. A run of blanks separates a sentence that ends in a terminator from
the next one, which begins where the run ends. -/
inductive Splits : List Char → List (List Char) → Prop
  | last {s : List Char} (h : IsSentence s) : Splits s [s]
  | cons {s gap rest : List Char} {pieces : List (List Char)} (h : IsSentence s)
      (hend : Terminated s) (hgap : gap ≠ []) (hblank : Blank gap) (hrest : Splits rest pieces) :
      Splits (s ++ (gap ++ rest)) (s :: pieces)

theorem Terminated.ends {s : List Char} (h : Terminated s) : Ends s := by
  have hnone : (['.', '!', '?', '。', '！', '？'].all fun t => !isBlank t) = true := by decide
  obtain ⟨t, ht, hterm⟩ := h
  have hblank := List.all_eq_true.1 hnone t (of_decide_eq_true hterm)
  exact ⟨t, ht, by simpa using hblank⟩

theorem splitSentences_append (done : List (List Char)) (current : List Char) (between : Bool)
    (cs : List Char) : splitSentences done current between cs =
      done.reverse ++ splitSentences [] current between cs := by
  induction cs generalizing done current between with
  | nil => simp [splitSentences]
  | cons c cs ih =>
    unfold splitSentences
    split
    · exact ih done current true
    · split
      · rw [ih (current.reverse :: done), ih [current.reverse]]
        simp
      · exact ih done (c :: current) false

theorem splitSentences_blank {c : Char} (h : isBlank c = true) (done : List (List Char))
    (current cs : List Char) :
    splitSentences done current true (c :: cs) = splitSentences done current true cs := by
  rw [splitSentences, h]
  rfl

theorem splitSentences_of_not_blank {c : Char} (h : isBlank c = false) (done : List (List Char))
    (current : List Char) (between : Bool) (cs : List Char) :
    splitSentences done current between (c :: cs) =
      splitSentences done (c :: current) false cs := by
  rw [splitSentences, h]
  rfl

/-- A blank ends the sentence if it follows a terminator. -/
theorem splitSentences_boundary {c : Char} (h : isBlank c = true) {current : List Char}
    (hend : Terminated current.reverse) (cs : List Char) :
    splitSentences [] current false (c :: cs) =
      current.reverse :: splitSentences [] [] true cs := by
  obtain ⟨t, ht, hterm⟩ := hend
  rw [List.getLast?_reverse] at ht
  have hhead : current.head?.any isTerminator = true := by
    rw [ht]
    exact hterm
  rw [splitSentences, h, hhead]
  simp only [Bool.and_false, Bool.false_eq_true, if_false, Bool.and_self, if_true]
  rw [splitSentences_append]
  rfl

/-- A character that follows no terminator, or is not blank, belongs to the sentence. -/
theorem splitSentences_inner {c : Char} {current : List Char}
    (h : ∀ t ∈ current.head?, isTerminator t = true → isBlank c = false) (cs : List Char) :
    splitSentences [] current false (c :: cs) = splitSentences [] (c :: current) false cs := by
  have hnot : (isBlank c && current.head?.any isTerminator) = false := by
    cases hb : isBlank c with
    | false => rfl
    | true =>
      rw [Bool.true_and]
      cases ht : current.head? with
      | none => rfl
      | some t =>
        have := h t ht
        cases hterm : isTerminator t with
        | false => exact hterm
        | true =>
          rw [this hterm] at hb
          cases hb
  rw [splitSentences, Bool.and_false, hnot]
  rfl

theorem unbroken_reverse_cons {c : Char} {current : List Char} :
    Unbroken (c :: current).reverse ↔
      (∀ t ∈ current.head?, isTerminator t = true → isBlank c = false) ∧
        Unbroken current.reverse := by
  rw [Unbroken, Unbroken, List.isChain_reverse, List.isChain_reverse, List.isChain_cons]

theorem splitSentences_gap {gap : List Char} (h : Blank gap) (rest : List Char) :
    splitSentences [] [] true (gap ++ rest) = splitSentences [] [] true rest := by
  induction gap with
  | nil => rfl
  | cons c gap ih =>
    have hc : isBlank c = true := h c List.mem_cons_self
    have hgap : Blank gap := fun d hd => h d (List.mem_cons_of_mem _ hd)
    rw [List.cons_append, splitSentences_blank hc, ih hgap]

/-- The characters of a sentence are read up to its end. -/
theorem splitSentences_unbroken {s current : List Char}
    (h : Unbroken (current.reverse ++ s)) (rest : List Char) :
    splitSentences [] current false (s ++ rest) =
      splitSentences [] (s.reverse ++ current) false rest := by
  induction s generalizing current with
  | nil => rfl
  | cons c s ih =>
    have hmore : Unbroken ((c :: current).reverse ++ s) := by simpa using h
    have hbegun : Unbroken (c :: current).reverse := hmore.left_of_append
    rw [List.cons_append, splitSentences_inner (unbroken_reverse_cons.1 hbegun).1, ih hmore]
    simp

theorem splitSentences_sentence {s : List Char} (h : IsSentence s) (between : Bool)
    (rest : List Char) :
    splitSentences [] [] between (s ++ rest) = splitSentences [] s.reverse false rest := by
  obtain ⟨c, hc, hblank⟩ := h.begins
  obtain ⟨tail, rfl⟩ := List.head?_eq_some_iff.1 hc
  have hunbroken : Unbroken ([c].reverse ++ tail) := h.unbroken
  rw [List.cons_append, splitSentences_of_not_blank hblank, splitSentences_unbroken hunbroken]
  simp

theorem Splits.splitSentences {cs : List Char} {pieces : List (List Char)} (h : Splits cs pieces)
    (between : Bool) : splitSentences [] [] between cs = pieces := by
  induction h generalizing between with
  | @last s h =>
    have hread := splitSentences_sentence h between []
    rw [List.append_nil] at hread
    rw [hread, Summary.splitSentences, List.reverse_reverse]
    rfl
  | @cons s gap rest pieces h hend hgap hblank _ ih =>
    rw [splitSentences_sentence h]
    obtain ⟨c, gap, rfl⟩ := List.exists_cons_of_ne_nil hgap
    have hc : isBlank c = true := hblank c List.mem_cons_self
    have htail : Blank gap := fun d hd => hblank d (List.mem_cons_of_mem _ hd)
    have hend' : Terminated s.reverse.reverse := by rwa [List.reverse_reverse]
    rw [List.cons_append, splitSentences_boundary hc hend', splitSentences_gap htail, ih,
      List.reverse_reverse]

theorem Splits.sentences_eq {cs : List Char} {pieces : List (List Char)} (h : Splits cs pieces) :
    sentences cs = pieces := h.splitSentences false

theorem Splits.unique {cs : List Char} {pieces pieces' : List (List Char)} (h : Splits cs pieces)
    (h' : Splits cs pieces') : pieces = pieces' := h.sentences_eq.symm.trans h'.sentences_eq

/-- A sentence ends at a blank after a terminator, and the next one begins where the blanks end. -/
theorem splits_boundary {c : Char} {current cs : List Char} {pieces : List (List Char)}
    (hcurrent : IsSentence current) (hend : Terminated current) (hc : isBlank c = true)
    (h : Splits (trimStart cs) pieces) : Splits (current ++ c :: cs) (current :: pieces) := by
  obtain ⟨gap, hgap, hblank⟩ := exists_trimStart cs
  have hall : Blank (c :: gap) := List.forall_mem_cons.2 ⟨hc, hblank⟩
  have hcs : current ++ c :: cs = current ++ (c :: gap ++ trimStart cs) := by
    rw [List.cons_append, ← hgap]
  rw [hcs]
  exact .cons hcurrent hend (List.cons_ne_nil c gap) hall h

/-- Both states of the search: between two sentences, and within one that has begun. -/
theorem splits_splitSentences (cs : List Char) :
    (Ends cs → Splits (trimStart cs) (splitSentences [] [] true cs)) ∧
    ∀ current : List Char, Ends current → Unbroken current.reverse →
      Ends (current.reverse ++ cs) →
        Splits (current.reverse ++ cs) (splitSentences [] current false cs) := by
  induction cs with
  | nil =>
    constructor
    · rintro ⟨c, hc, -⟩
      cases hc
    · intro current hbegins hunbroken hends
      rw [List.append_nil] at hends ⊢
      exact .last ⟨⟨begins_reverse.2 hbegins, hends⟩, hunbroken⟩
  | cons c cs ih =>
    obtain ⟨ihgap, ihsentence⟩ := ih
    constructor
    · intro hends
      cases hc : isBlank c with
      | true =>
        rw [splitSentences_blank hc, trimStart, List.dropWhile_cons, hc]
        exact ihgap (hends.of_blank hc)
      | false =>
        rw [splitSentences_of_not_blank hc, trimStart, List.dropWhile_cons, hc]
        exact ihsentence [c] ⟨c, rfl, hc⟩ (List.isChain_singleton c) hends
    · intro current hbegins hunbroken hends
      by_cases hboundary : isBlank c = true ∧ Terminated current.reverse
      · obtain ⟨hc, hend⟩ := hboundary
        have hcurrent : IsSentence current.reverse :=
          ⟨⟨begins_reverse.2 hbegins, hend.ends⟩, hunbroken⟩
        have hrest : Ends cs := (hends.of_append (List.cons_ne_nil c cs)).of_blank hc
        rw [splitSentences_boundary hc hend]
        exact splits_boundary hcurrent hend hc (ihgap hrest)
      · have hinner : ∀ t ∈ current.head?, isTerminator t = true → isBlank c = false := by
          intro t ht hterm
          rw [Bool.eq_false_iff]
          intro hc
          apply hboundary
          exact ⟨hc, t, by rwa [List.getLast?_reverse], hterm⟩
        have hcs : current.reverse ++ c :: cs = (c :: current).reverse ++ cs := by simp
        rw [hcs] at hends ⊢
        rw [splitSentences_inner hinner]
        exact ihsentence _ (hbegins.append [c]) (unbroken_reverse_cons.2 ⟨hinner, hunbroken⟩) hends

/-- Every text without blanks at its ends consists of sentences. -/
theorem splits_sentences {cs : List Char} (h : Trimmed cs) : Splits cs (sentences cs) := by
  obtain ⟨c, hc, hblank⟩ := h.begins
  obtain ⟨rest, rfl⟩ := List.head?_eq_some_iff.1 hc
  rw [sentences, splitSentences_of_not_blank hblank]
  exact (splits_splitSentences rest).2 [c] ⟨c, rfl, hblank⟩ (List.isChain_singleton c) h.ends

theorem joined_cons (s : List Char) {pieces : List (List Char)} (h : pieces ≠ []) :
    joined (s :: pieces) = s ++ ' ' :: joined pieces := by
  obtain ⟨t, pieces, rfl⟩ := List.exists_cons_of_ne_nil h
  rw [joined, List.intercalate_cons_cons, joined, List.append_assoc]
  rfl

theorem joined_singleton (s : List Char) : joined [s] = s := by simp [joined]

/-- Sentences in a row: each but the last ends in a terminator. -/
structure InRow (pieces : List (List Char)) : Prop where
  ne_nil : pieces ≠ []
  sentence : ∀ s ∈ pieces, IsSentence s
  terminated : ∀ s ∈ pieces.dropLast, Terminated s

theorem InRow.singleton {s : List Char} (h : IsSentence s) : InRow [s] :=
  ⟨List.cons_ne_nil s [], by simpa using h, by simp⟩

theorem InRow.cons {s : List Char} {pieces : List (List Char)} (hs : IsSentence s)
    (hend : Terminated s) (h : InRow pieces) : InRow (s :: pieces) := by
  refine ⟨List.cons_ne_nil s pieces, List.forall_mem_cons.2 ⟨hs, h.sentence⟩, ?_⟩
  rw [List.dropLast_cons_of_ne_nil h.ne_nil]
  exact List.forall_mem_cons.2 ⟨hend, h.terminated⟩

theorem InRow.tail {s : List Char} {pieces : List (List Char)} (h : InRow (s :: pieces))
    (hne : pieces ≠ []) : Terminated s ∧ InRow pieces := by
  obtain ⟨-, hsentence, hterminated⟩ := h
  rw [List.dropLast_cons_of_ne_nil hne] at hterminated
  obtain ⟨hs, hrest⟩ := List.forall_mem_cons.1 hterminated
  exact ⟨hs, hne, (List.forall_mem_cons.1 hsentence).2, hrest⟩

theorem Splits.inRow {cs : List Char} {pieces : List (List Char)} (h : Splits cs pieces) :
    InRow pieces := by
  induction h with
  | last h => exact .singleton h
  | cons h hend _ _ _ ih => exact ih.cons h hend

/-- Joining sentences puts a blank just where they are told apart again. -/
theorem InRow.splits_joined {pieces : List (List Char)} (h : InRow pieces) :
    Splits (joined pieces) pieces := by
  induction pieces with
  | nil => exact absurd rfl h.ne_nil
  | cons s pieces ih =>
    have hs : IsSentence s := h.sentence s List.mem_cons_self
    by_cases hlast : pieces = []
    · subst hlast
      rw [joined_singleton]
      exact .last hs
    · obtain ⟨hend, hrest⟩ := h.tail hlast
      have hgap : Blank [' '] := by simp [Blank, isBlank_space]
      rw [joined_cons s hlast]
      exact .cons hs hend (List.cons_ne_nil _ _) hgap (ih hrest)

theorem InRow.take {pieces : List (List Char)} (h : InRow pieces) {n : Nat} (hn : 0 < n) :
    InRow (pieces.take n) := by
  refine ⟨?_, fun s hs => h.sentence s (List.mem_of_mem_take hs), fun s hs => ?_⟩
  · rw [Ne, List.take_eq_nil_iff, not_or]
    exact ⟨by omega, h.ne_nil⟩
  · rw [List.dropLast_take_eq_take_dropLast] at hs
    exact h.terminated s (List.mem_of_mem_take hs)

theorem Splits.trimmed {cs : List Char} {pieces : List (List Char)} (h : Splits cs pieces) :
    Trimmed cs := by
  induction h with
  | last h => exact h.toTrimmed
  | @cons s gap rest pieces h hend hgap hblank hrest ih =>
    exact ⟨h.begins.append _, (ih.ends.append gap).append s⟩

/-- A beginning of joined sentences consists of whole ones and a beginning of the next. -/
theorem InRow.exists_of_prefix {pieces : List (List Char)} (h : InRow pieces) {kept : List Char}
    (hkept : kept <+: joined pieces) (htrimmed : Trimmed kept) :
    ∃ before s part after, pieces = before ++ s :: after ∧ part <+: s ∧ Trimmed part ∧
      kept = joined (before ++ [part]) := by
  induction pieces generalizing kept with
  | nil => exact absurd rfl h.ne_nil
  | cons s pieces ih =>
    by_cases hwithin : kept <+: s
    · exact ⟨[], s, kept, pieces, rfl, hwithin, htrimmed, (joined_singleton kept).symm⟩
    by_cases hlast : pieces = []
    · subst hlast
      rw [joined_singleton] at hkept
      exact absurd hkept hwithin
    rw [joined_cons s hlast] at hkept
    -- the first sentence and the blank after it are there
    obtain ⟨more, rfl⟩ : s <+: kept :=
      (List.prefix_or_prefix_of_prefix hkept (List.prefix_append s _)).resolve_left hwithin
    have hmore := (List.prefix_append_right_inj s).1 hkept
    cases more with
    | nil =>
      rw [List.append_nil] at hwithin
      exact absurd (List.prefix_refl s) hwithin
    | cons c rest =>
      obtain ⟨rfl, hrest⟩ := List.cons_prefix_cons.1 hmore
      have hends : Ends (' ' :: rest) := htrimmed.ends.of_append (List.cons_ne_nil _ _)
      have hne : rest ≠ [] := (hends.of_blank isBlank_space).ne_nil
      have hrow := (h.tail hlast).2
      have hbegins : Begins rest := hrow.splits_joined.trimmed.begins.of_prefix hrest hne
      obtain ⟨before, t, part, after, rfl, hpart, hpart', rfl⟩ :=
        ih hrow hrest ⟨hbegins, hends.of_blank isBlank_space⟩
      refine ⟨s :: before, t, part, after, rfl, hpart, hpart', ?_⟩
      rw [List.cons_append, joined_cons s (by simp)]

end ResilientCalls.Summary
