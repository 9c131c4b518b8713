import ResilientCalls.Proofs.Sentences

namespace ResilientCalls.Summary

open Text

theorem joined_append_singleton (before : List (List Char)) (part more : List Char) :
    joined (before ++ [part ++ more]) = joined (before ++ [part]) ++ more := by
  induction before with
  | nil => rw [List.nil_append, List.nil_append, joined_singleton, joined_singleton]
  | cons s before ih =>
    rw [List.cons_append, List.cons_append, joined_cons s (by simp), joined_cons s (by simp), ih]
    simp

theorem IsSentence.ellipsis {s part : List Char} (h : IsSentence s) (hpart : part <+: s)
    (htrimmed : Trimmed part) : IsSentence (part ++ ['…']) := by
  have hblank : isBlank '…' = false := by decide
  refine ⟨⟨htrimmed.begins.append _, Ends.append ⟨'…', rfl, hblank⟩ part⟩, ?_⟩
  have hunbroken : Unbroken part := List.IsChain.prefix h.unbroken hpart
  refine List.IsChain.append hunbroken (List.isChain_singleton _) ?_
  intro t _ c hc _
  obtain rfl : '…' = c := Option.some.inj hc
  exact hblank

/-- Sentences of which the last is cut are sentences still. -/
theorem InRow.ellipsis {before after : List (List Char)} {s part : List Char}
    (h : InRow (before ++ s :: after)) (hpart : part <+: s) (htrimmed : Trimmed part) :
    InRow (before ++ [part ++ ['…']]) := by
  have hs : IsSentence s := h.sentence s (by simp)
  refine ⟨by simp, fun t ht => ?_, fun t ht => ?_⟩
  · rcases List.mem_append.1 ht with hbefore | hlast
    · exact h.sentence t (List.mem_append_left _ hbefore)
    · rw [List.mem_singleton.1 hlast]
      exact hs.ellipsis hpart htrimmed
  · rw [List.dropLast_concat] at ht
    apply h.terminated
    rw [List.dropLast_append_cons]
    exact List.mem_append_left _ ht

/-- What is kept of a text that may have so many characters, and what is made of it. -/
inductive Cut (limit : Nat) (cs : List Char) : (kept made : List Char) → Prop
  | whole (h : cs.length ≤ limit) : Cut limit cs cs cs
  | shortened {kept blanks : List Char} (h : limit < cs.length) (htrimmed : Trimmed kept)
      (hblanks : Blank blanks) (hkept : cs.take (limit - 1) = kept ++ blanks) :
      Cut limit cs kept (kept ++ ['…'])

theorem exists_cut {cs : List Char} (h : Begins cs) {limit : Nat} (hlimit : 1 < limit) :
    ∃ kept, Cut limit cs kept (ellipsized limit cs) := by
  rw [ellipsized]
  by_cases hlong : limit < cs.length
  · rw [if_pos hlong]
    have hne : cs.take (limit - 1) ≠ [] := by
      rw [Ne, List.take_eq_nil_iff, not_or]
      exact ⟨by omega, List.ne_nil_of_length_pos (by omega)⟩
    have hbegins := h.of_prefix (List.take_prefix (limit - 1) cs) hne
    obtain ⟨blanks, hkept, hblanks⟩ := exists_trimEnd (cs.take (limit - 1))
    exact ⟨_, .shortened hlong (trimmed_trimEnd hbegins) hblanks hkept⟩
  · rw [if_neg hlong]
    exact ⟨cs, .whole (by omega)⟩

theorem Cut.kept_prefix {limit : Nat} {cs kept made : List Char} (h : Cut limit cs kept made) :
    kept <+: cs := by
  cases h with
  | whole _ => exact List.prefix_refl cs
  | shortened _ _ _ hkept =>
    have htake := List.take_prefix (limit - 1) cs
    rw [hkept] at htake
    exact (List.prefix_append _ _).trans htake

theorem Cut.length_le {limit : Nat} {cs kept made : List Char} (h : Cut limit cs kept made)
    (hlimit : 0 < limit) : made.length ≤ limit := by
  cases h with
  | whole h => exact h
  | shortened _ _ _ hkept =>
    have hlength := congrArg List.length hkept
    rw [List.length_take, List.length_append] at hlength
    rw [List.length_append, List.length_singleton]
    omega

theorem budget_eq (maxLength : Int) : (budget maxLength : Int) = max 100 (6 * maxLength) := by
  rw [budget]
  omega

theorem hundred_le_budget (maxLength : Int) : 100 ≤ budget maxLength := by
  have := budget_eq maxLength
  omega

theorem extract_of_blank {text : String} (h : trim text.toList = []) (maxLength : Int) :
    extract text maxLength = unavailable := by
  rw [extract, h]

theorem extract_of_splits {text : String} {pieces : List (List Char)}
    (h : Splits (trim text.toList) pieces) (maxLength : Int) :
    (extract text maxLength).toList =
      ellipsized (budget maxLength) (joined (pieces.take extractSentences)) := by
  obtain ⟨c, rest, hcs⟩ := List.exists_cons_of_ne_nil h.trimmed.ne_nil
  have hpieces := h.sentences_eq
  rw [hcs] at hpieces
  rw [extract, hcs]
  simp only [hpieces, String.toList_ofList]

/-- The sentences of an extract are the first ones of the text, of which the last may be cut. -/
inductive Excerpt (found : List (List Char)) : List (List Char) → Prop
  | whole : Excerpt found (found.take extractSentences)
  | shortened {before after : List (List Char)} {s part : List Char}
      (h : found.take extractSentences = before ++ s :: after) (hpart : part <+: s) :
      Excerpt found (before ++ [part ++ ['…']])

theorem Excerpt.length_le {found pieces : List (List Char)} (h : Excerpt found pieces) :
    pieces.length ≤ extractSentences := by
  cases h with
  | whole => exact List.length_take_le _ _
  | @shortened before after s part h hpart =>
    have hlength := List.length_take_le extractSentences found
    rw [h] at hlength
    simp only [List.length_append, List.length_cons, List.length_nil] at hlength ⊢
    omega

theorem exists_excerpt {text : String} {found : List (List Char)}
    (h : Splits (trim text.toList) found) (maxLength : Int) :
    ∃ pieces, Excerpt found pieces ∧ InRow pieces ∧
      joined pieces = (extract text maxLength).toList := by
  have hrow : InRow (found.take extractSentences) := h.inRow.take (by decide)
  have hlimit : 1 < budget maxLength := by
    have := hundred_le_budget maxLength
    omega
  obtain ⟨kept, hcut⟩ := exists_cut hrow.splits_joined.trimmed.begins hlimit
  rw [extract_of_splits h]
  generalize hmade : ellipsized (budget maxLength) (joined (found.take extractSentences)) = made
    at hcut ⊢
  have hprefix := hcut.kept_prefix
  cases hcut with
  | whole _ => exact ⟨_, .whole, hrow, rfl⟩
  | shortened _ htrimmed _ _ =>
    obtain ⟨before, s, part, after, hfound, hpart, htrimmed', rfl⟩ :=
      hrow.exists_of_prefix hprefix htrimmed
    rw [hfound] at hrow
    exact ⟨_, .shortened hfound hpart, hrow.ellipsis hpart htrimmed',
      joined_append_singleton _ _ _⟩

theorem inRow_unavailable : InRow [unavailable.toList] := by
  refine .singleton ⟨⟨⟨'S', rfl, by decide⟩, '.', rfl, by decide⟩, ?_⟩
  rw [Unbroken]
  decide

/-- Every extract consists of at most three sentences that are joined, and keeps to its budget. -/
theorem extract_inRow (text : String) (maxLength : Int) :
    ∃ pieces, InRow pieces ∧ pieces.length ≤ extractSentences ∧
      joined pieces = (extract text maxLength).toList ∧
      (joined pieces).length ≤ budget maxLength ∧
      ∀ found, Splits (trim text.toList) found → Excerpt found pieces := by
  have hlimit := hundred_le_budget maxLength
  by_cases hblank : trim text.toList = []
  · have hlength : (joined [unavailable.toList]).length ≤ 100 := by decide
    rw [extract_of_blank hblank]
    refine ⟨_, inRow_unavailable, by decide, joined_singleton _, by omega, fun found hfound => ?_⟩
    exact absurd hblank hfound.trimmed.ne_nil
  · have hsplits := splits_sentences (trimmed_trim hblank)
    have hfirst : InRow ((sentences (trim text.toList)).take extractSentences) :=
      hsplits.inRow.take (by decide)
    obtain ⟨kept, hcut⟩ := exists_cut hfirst.splits_joined.trimmed.begins
      (show 1 < budget maxLength by omega)
    obtain ⟨pieces, hexcerpt, hrow, hjoined⟩ := exists_excerpt hsplits maxLength
    refine ⟨pieces, hrow, hexcerpt.length_le, hjoined, ?_, fun found hfound => ?_⟩
    · rw [hjoined, extract_of_splits hsplits]
      exact hcut.length_le (by omega)
    · rw [hfound.unique hsplits]
      exact hexcerpt

theorem trimmed_extract (text : String) (maxLength : Int) :
    Trimmed (extract text maxLength).toList := by
  obtain ⟨pieces, hrow, -, hjoined, -⟩ := extract_inRow text maxLength
  rw [← hjoined]
  exact hrow.splits_joined.trimmed

theorem extract_ne_empty (text : String) (maxLength : Int) : extract text maxLength ≠ "" := by
  intro hempty
  have hne := (trimmed_extract text maxLength).ne_nil
  rw [hempty] at hne
  exact hne rfl

def unblanked (cs : List Char) : List Char := cs.filter fun c => !isBlank c

theorem unblanked_append (cs ds : List Char) :
    unblanked (cs ++ ds) = unblanked cs ++ unblanked ds := List.filter_append _ _

theorem unblanked_of_blank {cs : List Char} (h : Blank cs) : unblanked cs = [] := by
  rw [unblanked, List.filter_eq_nil_iff]
  intro c hc
  simp [h c hc]

theorem unblanked_trim (cs : List Char) : unblanked (trim cs) = unblanked cs := by
  obtain ⟨before, after, hcs, hbefore, hafter⟩ := exists_trim cs
  have hparts := congrArg unblanked hcs
  rw [unblanked_append, unblanked_append, unblanked_of_blank hbefore, unblanked_of_blank hafter,
    List.nil_append, List.append_nil] at hparts
  exact hparts.symm

theorem Splits.unblanked_eq {cs : List Char} {pieces : List (List Char)} (h : Splits cs pieces) :
    unblanked cs = unblanked pieces.flatten := by
  induction h with
  | last h => simp
  | cons h hend hgap hblank hrest ih =>
    rw [List.flatten_cons, unblanked_append, unblanked_append, unblanked_append,
      unblanked_of_blank hblank, ih, List.nil_append]

/-- The extract as it is with two precautions: pieces that are empty are left out, and a text stands
for itself if nothing is left of it. -/
def guardedExtract (text : String) (maxLength : Int) : String :=
  match trim text.toList with
  | [] => unavailable
  | cs =>
    let candidate := joined (((sentences cs).filter (!·.isEmpty)).take extractSentences)
    String.ofList (ellipsized (budget maxLength) (if candidate = [] then cs else candidate))

theorem guardedExtract_eq (text : String) (maxLength : Int) :
    guardedExtract text maxLength = extract text maxLength := by
  rw [guardedExtract, extract]
  cases hcs : trim text.toList with
  | nil => rfl
  | cons c rest =>
    have htrimmed : Trimmed (c :: rest) := by
      rw [← hcs]
      exact trimmed_trim (by simp [hcs])
    have hrow := (splits_sentences htrimmed).inRow
    have hfilter : (sentences (c :: rest)).filter (!·.isEmpty) = sentences (c :: rest) := by
      rw [List.filter_eq_self]
      intro s hs
      simpa using (hrow.sentence s hs).ne_nil
    have hcandidate := (hrow.take (n := 3) (by decide)).splits_joined.trimmed.ne_nil
    simp only [hfilter, if_neg hcandidate, extractSentences]

/-- An extract is not empty, has no blanks at its ends and keeps to its budget. It is made of the
first three sentences of the text, joined: of all of them if they fit, and of a part that they begin
with and an ellipsis if they do not. But for blanks and the ellipsis it is what the text begins
with, and all of it if there are no more sentences and they fit. Neither of the two precautions that
could be taken ever matters. -/
theorem extract_extractive (text : String) (maxLength : Int) :
    Trimmed (extract text maxLength).toList ∧
    ((extract text maxLength).length : Int) ≤ max 100 (6 * maxLength) ∧
    (trim text.toList ≠ [] → ∃! pieces, Splits (trim text.toList) pieces) ∧
    (∀ pieces, Splits (trim text.toList) pieces →
      ∃ kept, Cut (max 100 (6 * maxLength)).toNat (joined (pieces.take 3)) kept
          (extract text maxLength).toList ∧
        kept <+: joined (pieces.take 3) ∧ unblanked kept <+: unblanked text.toList ∧
        (pieces.length ≤ 3 → ((joined pieces).length : Int) ≤ max 100 (6 * maxLength) →
          unblanked (extract text maxLength).toList = unblanked text.toList)) ∧
    guardedExtract text maxLength = extract text maxLength := by
  have hlimit := hundred_le_budget maxLength
  have hbudget := budget_eq maxLength
  obtain ⟨_, -, -, hjoined, hlength, -⟩ := extract_inRow text maxLength
  rw [hjoined, String.length_toList] at hlength
  refine ⟨trimmed_extract text maxLength, by omega, fun hne => ?_, fun pieces hpieces => ?_,
    guardedExtract_eq text maxLength⟩
  · have hsplits := splits_sentences (trimmed_trim hne)
    exact ⟨_, hsplits, fun pieces hpieces => hpieces.unique hsplits⟩
  · have hfirst : InRow (pieces.take 3) := hpieces.inRow.take (by decide)
    obtain ⟨kept, hcut⟩ := exists_cut hfirst.splits_joined.trimmed.begins
      (show 1 < budget maxLength by omega)
    have hmade := extract_of_splits hpieces maxLength
    have hall : unblanked text.toList = unblanked pieces.flatten := by
      rw [← unblanked_trim, hpieces.unblanked_eq]
    refine ⟨kept, hmade ▸ hcut, hcut.kept_prefix, ?_, fun hthree hfits => ?_⟩
    · rw [hall]
      have hkept : unblanked kept <+: unblanked (joined (pieces.take 3)) :=
        hcut.kept_prefix.filter _
      rw [hfirst.splits_joined.unblanked_eq] at hkept
      have hfew : (pieces.take 3).flatten <+: pieces.flatten := by
        refine ⟨(pieces.drop 3).flatten, ?_⟩
        rw [← List.flatten_append, List.take_append_drop]
      exact hkept.trans (hfew.filter _)
    · have hwhole : pieces.take extractSentences = pieces := List.take_of_length_le hthree
      rw [hmade, hwhole, ellipsized, if_neg (by omega), hall]
      exact hpieces.inRow.splits_joined.unblanked_eq

example : extract "One.  Two!\nThree? Four." 1 = "One. Two! Three?" := by decide

/-- The extract of an extract is the extract itself, wherever the first one was cut: what it was
made of are its sentences, there are at most three, and they fit. -/
theorem extract_settled (text : String) (maxLength : Int) :
    extract (extract text maxLength) maxLength = extract text maxLength ∧
    ∃ pieces, Splits (extract text maxLength).toList pieces ∧ pieces.length ≤ 3 ∧
      joined pieces = (extract text maxLength).toList ∧
      ((joined pieces).length : Int) ≤ max 100 (6 * maxLength) ∧
      ∀ found, Splits (trim text.toList) found → Excerpt found pieces := by
  have hbudget := budget_eq maxLength
  obtain ⟨pieces, hrow, hcount, hjoined, hlength, hexcerpt⟩ := extract_inRow text maxLength
  have hsplits : Splits (extract text maxLength).toList pieces := by
    rw [← hjoined]
    exact hrow.splits_joined
  refine ⟨?_, pieces, hsplits, hcount, hjoined, by omega, hexcerpt⟩
  apply String.toList_injective
  have hsame : Splits (trim (extract text maxLength).toList) pieces := by
    rwa [hsplits.trimmed.trim_eq]
  rw [extract_of_splits hsame, List.take_of_length_le hcount, ellipsized, if_neg (by omega),
    hjoined]

end ResilientCalls.Summary
