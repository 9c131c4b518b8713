import Mathlib.Data.List.Infix
import Mathlib.Data.List.TakeWhile
import ResilientCalls.StringMap.Balance

namespace ResilientCalls.StringMap

mutual

/-- The code points of a text that stand in none of its double-quoted strings. -/
def bare : CodePoints → CodePoints
  | [] => []
  | p :: rest => if p = '"' then bareAfter rest else p :: bare rest

/-- Those after the string in which a text begins. A backslash takes the next code point with it. -/
def bareAfter : CodePoints → CodePoints
  | [] => []
  | [_] => []
  | p :: q :: rest =>
    if p = '"' then bare (q :: rest)
    else if p = '\\' then bareAfter rest
    else bareAfter (q :: rest)

end

/-- The number of braces that are opened outside strings. -/
def opened (ps : CodePoints) : Nat := (bare ps).count (.char '{')

def closed (ps : CodePoints) : Nat := (bare ps).count (.char '}')

theorem bareAfter_cons (p : CodePoint) (ps : CodePoints) : bareAfter (p :: ps) =
    if p = '"' then bare ps else if p = '\\' then bareAfter ps.tail else bareAfter ps := by
  cases ps with
  | nil => simp [bare, bareAfter]
  | cons q ps => rw [bareAfter, List.tail_cons]

/-- The bare code points of a text that begins in a context. -/
def bareIn : Context → CodePoints → CodePoints
  | .outside, ps => bare ps
  | .quoted, ps => bareAfter ps
  | .escaped, ps => bareAfter ps.tail

/-- What a code point adds to the bare ones. -/
def Scan.fresh (s : Scan) (p : CodePoint) : CodePoints :=
  if s.context = .outside ∧ p ≠ '"' then [p] else []

theorem bareIn_cons (s : Scan) (p : CodePoint) (ps : CodePoints) :
    bareIn s.context (p :: ps) = s.fresh p ++ bareIn (s.step p).context ps := by
  unfold Scan.fresh
  obtain ⟨depth, context⟩ := s
  cases context with
  | outside =>
    by_cases hquote : p = '"'
    · simp [bareIn, bare, Scan.step, hquote]
    · have hcontext : (Scan.step ⟨depth, .outside⟩ p).context = .outside := by
        unfold Scan.step
        simp only [hquote, if_false]
        split
        · rfl
        · split <;> rfl
      rw [hcontext]
      simp [bareIn, bare, hquote]
  | quoted =>
    rw [bareIn, bareAfter_cons]
    by_cases hquote : p = '"'
    · simp [bareIn, Scan.step, hquote]
    · by_cases hescape : p = '\\'
      · simp [bareIn, Scan.step, hescape]
      · simp [bareIn, Scan.step, hescape, hquote]
  | escaped => simp [bareIn, Scan.step]

/-- A code point after a text is bare if the scan of the text ends outside strings. -/
theorem bareIn_concat (s : Scan) (ps : CodePoints) (p : CodePoint) :
    bareIn s.context (ps ++ [p]) = bareIn s.context ps ++ (ps.foldl Scan.step s).fresh p := by
  induction ps generalizing s with
  | nil =>
    have hnil : ∀ c : Context, bareIn c [] = [] := by
      intro c
      cases c <;> rfl
    rw [List.nil_append, bareIn_cons, hnil, hnil, List.append_nil]
    rfl
  | cons q ps ih =>
    rw [List.cons_append, bareIn_cons, bareIn_cons, ih, List.append_assoc]
    rfl

/-- The scan of a text from its start. -/
def scanned (ps : CodePoints) : Scan := ps.foldl Scan.step .start

theorem scanned_concat (ps : CodePoints) (p : CodePoint) :
    scanned (ps ++ [p]) = (scanned ps).step p := by
  rw [scanned, List.foldl_append]
  rfl

theorem bare_concat (ps : CodePoints) (p : CodePoint) :
    bare (ps ++ [p]) = bare ps ++ (scanned ps).fresh p := bareIn_concat .start ps p

/-- Below the first opening brace the depth changes by what is bare. -/
theorem depth_step {s : Scan} (h : s.depth ≠ 0) (p : CodePoint) :
    (s.step p).depth + (s.fresh p).count (.char '}') =
      s.depth + (s.fresh p).count (.char '{') := by
  obtain ⟨depth, context⟩ := s
  cases context with
  | outside =>
    by_cases hquote : p = '"'
    · simp [Scan.step, Scan.fresh, hquote]
    · by_cases hopen : p = '{'
      · simp [Scan.step, Scan.fresh, hopen]
      · by_cases hclose : p = '}'
        · simp only [ne_eq] at h
          simp [Scan.step, Scan.fresh, hclose]
          omega
        · simp [Scan.step, Scan.fresh, hquote, hopen, hclose]
  | quoted =>
    have hdepth : (Scan.step ⟨depth, .quoted⟩ p).depth = depth := by
      unfold Scan.step
      dsimp only
      split
      · rfl
      · split <;> rfl
    rw [hdepth]
    simp [Scan.fresh]
  | escaped => simp [Scan.step, Scan.fresh]

/-- Until it is back at zero the depth is the number of braces left open. -/
theorem depth_add_closed {ps : CodePoints} (hps : ps.head? = some (.char '{'))
    (hinner : ∀ qs, qs <+: ps → qs ≠ [] → qs ≠ ps → (scanned qs).depth ≠ 0) :
    (scanned ps).depth + closed ps = opened ps := by
  -- from the last code point, before which the depth is not zero and cannot stop at it
  induction ps using List.reverseRecOn with
  | nil => cases hps
  | append_singleton ps p ih =>
    by_cases hnil : ps = []
    · subst hnil
      obtain rfl := Option.some.inj hps
      decide
    · have hdepth : (scanned ps).depth ≠ 0 :=
        hinner ps (List.prefix_append ps [p]) hnil (by simp)
      have hhead : ps.head? = some (.char '{') := by
        rwa [List.head?_append_of_ne_nil _ hnil] at hps
      have hcount : (scanned ps).depth + closed ps = opened ps := by
        apply ih hhead
        intro qs hqs hne hneps
        apply hinner qs (hqs.trans (List.prefix_append ps [p])) hne
        rintro rfl
        have hlength := hqs.length_le
        rw [List.length_append, List.length_singleton] at hlength
        omega
      have hstep := depth_step hdepth p
      unfold opened closed at hcount ⊢
      rw [scanned_concat, bare_concat, List.count_append, List.count_append]
      omega

/-- The scan of a part is back at zero at its end, and not before. -/
structure Scan.Settles (s : Scan) (part : CodePoints) : Prop where
  nonempty : part ≠ []
  depth : (part.foldl Scan.step s).depth = 0
  inner : ∀ qs, qs <+: part → qs ≠ [] → qs ≠ part → (qs.foldl Scan.step s).depth ≠ 0

theorem Scan.Settles.singleton {s : Scan} {p : CodePoint} (h : (s.step p).depth = 0) :
    s.Settles [p] := by
  refine ⟨List.cons_ne_nil p [], h, ?_⟩
  intro qs hqs hne hneq
  obtain ⟨rs, rfl, hrs⟩ := (List.prefix_cons_iff.1 hqs).resolve_left hne
  rw [List.prefix_nil.1 hrs] at hneq
  exact absurd rfl hneq

theorem Scan.Settles.cons {s : Scan} {p : CodePoint} {part : CodePoints}
    (h : (s.step p).Settles part) (hp : (s.step p).depth ≠ 0) : s.Settles (p :: part) := by
  refine ⟨List.cons_ne_nil p part, h.depth, ?_⟩
  intro qs hqs hne hneq
  obtain ⟨rs, rfl, hrs⟩ := (List.prefix_cons_iff.1 hqs).resolve_left hne
  by_cases hnil : rs = []
  · subst hnil
    exact hp
  · apply h.inner rs hrs hnil
    rintro rfl
    exact hneq rfl

theorem exists_settles_of_closing? {done ps part : CodePoints} {s : Scan}
    (h : closing? done s ps = some part) :
    ∃ qs, part = done.reverse ++ qs ∧ qs <+: ps ∧ s.Settles qs := by
  induction ps generalizing done s with
  | nil => cases h
  | cons p ps ih =>
    simp only [closing?] at h
    split at h
    · have hpart := Option.some.inj h
      refine ⟨[p], ?_, List.prefix_append [p] ps, .singleton ‹_›⟩
      rw [← hpart, List.reverse_cons]
    · obtain ⟨qs, rfl, hqs, hsettles⟩ := ih h
      refine ⟨p :: qs, ?_, List.cons_prefix_cons.2 ⟨rfl, hqs⟩, hsettles.cons ‹_›⟩
      rw [List.reverse_cons, List.append_assoc, List.singleton_append]

theorem depth_ne_zero_of_closing? {done ps : CodePoints} {s : Scan}
    (h : closing? done s ps = none) :
    ∀ qs, qs <+: ps → qs ≠ [] → (qs.foldl Scan.step s).depth ≠ 0 := by
  induction ps generalizing done s with
  | nil =>
    intro qs hqs hne
    exact absurd (List.prefix_nil.1 hqs) hne
  | cons p ps ih =>
    intro qs hqs hne
    simp only [closing?] at h
    split at h
    · cases h
    · obtain ⟨rs, rfl, hrs⟩ := (List.prefix_cons_iff.1 hqs).resolve_left hne
      by_cases hnil : rs = []
      · subst hnil
        assumption
      · exact ih h rs hrs hnil

/-- The part of a text begins at the first opening brace. -/
structure FromBrace (text part : CodePoints) : Prop where
  place : ∃ before after, text = before ++ (part ++ after) ∧ .char '{' ∉ before
  opens : part.head? = some (.char '{')

/-- The part is the shortest from the first opening brace on that closes as many braces as it opens
outside strings. -/
structure FirstObject (text part : CodePoints) : Prop extends FromBrace text part where
  level : opened part = closed part
  shortest : ∀ other, FromBrace text other → opened other = closed other → part <+: other

section

variable {text part : CodePoints}

theorem skipped_of_notMem {ps : CodePoints} (h : .char '{' ∉ ps) :
    ∀ p ∈ ps, decide (p ≠ .char '{') = true := by
  intro p hp
  apply decide_eq_true
  rintro rfl
  exact h hp

theorem dropWhile_brace {before ps : CodePoints} (hbefore : .char '{' ∉ before)
    (hps : ps.head? = some (.char '{')) : (before ++ ps).dropWhile (· ≠ .char '{') = ps := by
  obtain ⟨rest, rfl⟩ := List.head?_eq_some_iff.1 hps
  rw [List.dropWhile_append_of_pos (skipped_of_notMem hbefore)]
  simp

theorem balancedObject?_append {before ps : CodePoints} (hbefore : .char '{' ∉ before)
    (hps : ps.head? = some (.char '{')) :
    balancedObject? (before ++ ps) = closing? [] .start ps := by
  rw [balancedObject?, dropWhile_brace hbefore hps]

theorem fromBrace_iff : FromBrace text part ↔
    part ≠ [] ∧ part <+: text.dropWhile (· ≠ .char '{') := by
  constructor
  · rintro ⟨⟨before, after, rfl, hbefore⟩, hopens⟩
    have hhead : (part ++ after).head? = some (.char '{') := by
      rw [List.head?_append, hopens, Option.some_or]
    refine ⟨?_, ?_⟩
    · rintro rfl
      cases hopens
    · rw [dropWhile_brace hbefore hhead]
      exact List.prefix_append part after
  · rintro ⟨hne, after, hpart⟩
    by_cases hbrace : .char '{' ∈ text
    · obtain ⟨before, rest, rfl, hbefore⟩ := List.eq_append_cons_of_mem hbrace
      rw [dropWhile_brace hbefore (by rfl)] at hpart
      refine ⟨⟨before, after, by rw [hpart], hbefore⟩, ?_⟩
      rw [← List.head?_append_of_ne_nil _ hne, hpart]
      rfl
    · have hnil : text.dropWhile (· ≠ .char '{') = [] :=
        List.dropWhile_eq_nil_iff.2 (skipped_of_notMem hbrace)
      rw [hnil, List.append_eq_nil_iff] at hpart
      exact absurd hpart.1 hne

theorem FromBrace.of_prefix {other : CodePoints} (h : FromBrace text part) (hne : other ≠ [])
    (hother : other <+: part) : FromBrace text other :=
  fromBrace_iff.2 ⟨hne, hother.trans (fromBrace_iff.1 h).2⟩

/-- Of two parts from the first brace on one is the beginning of the other. -/
theorem FromBrace.total {other : CodePoints} (h : FromBrace text part)
    (hother : FromBrace text other) : part <+: other ∨ other <+: part :=
  List.prefix_or_prefix_of_prefix (fromBrace_iff.1 h).2 (fromBrace_iff.1 hother).2

theorem settles_of_balancedObject? (h : balancedObject? text = some part) :
    FromBrace text part ∧ Scan.start.Settles part := by
  obtain ⟨qs, rfl, hqs, hsettles⟩ := exists_settles_of_closing? h
  exact ⟨fromBrace_iff.2 ⟨hsettles.nonempty, hqs⟩, hsettles⟩

theorem FromBrace.depth_ne_zero (h : FromBrace text part) (hnone : balancedObject? text = none) :
    (scanned part).depth ≠ 0 := by
  obtain ⟨hne, hpart⟩ := fromBrace_iff.1 h
  exact depth_ne_zero_of_closing? hnone part hpart hne

/-- Nothing is found if and only if there is no brace or the scan from the first one on never comes
back to zero. -/
theorem balancedObject?_eq_none_iff : balancedObject? text = none ↔
    .char '{' ∉ text ∨ ∀ part, FromBrace text part → (scanned part).depth ≠ 0 := by
  constructor
  · intro hnone
    right
    intro part hpart
    exact hpart.depth_ne_zero hnone
  · intro h
    cases hfound : balancedObject? text with
    | none => rfl
    | some part =>
      obtain ⟨hpart, hsettles⟩ := settles_of_balancedObject? hfound
      rcases h with hbrace | hdepth
      · obtain ⟨⟨before, after, rfl, -⟩, hopens⟩ := hpart
        have hmem := List.mem_of_head? hopens
        exact absurd (by simp [hmem]) hbrace
      · exact absurd hsettles.depth (hdepth part hpart)

theorem closed_lt_opened {shorter : CodePoints} (h : FromBrace text part)
    (hsettles : Scan.start.Settles part) (hshorter : shorter <+: part) (hne : shorter ≠ [])
    (hneq : shorter ≠ part) : closed shorter < opened shorter := by
  have hopens := (h.of_prefix hne hshorter).opens
  have hdepth : (scanned shorter).depth ≠ 0 := hsettles.inner shorter hshorter hne hneq
  have hcount : (scanned shorter).depth + closed shorter = opened shorter := by
    apply depth_add_closed hopens
    intro qs hqs hqsne hqsneq
    apply hsettles.inner qs (hqs.trans hshorter) hqsne
    rintro rfl
    exact hneq (hshorter.eq_of_length_le hqs.length_le)
  omega

theorem firstObject_of_settles (h : FromBrace text part) (hsettles : Scan.start.Settles part) :
    FirstObject text part := by
  have hcount := depth_add_closed h.opens hsettles.inner
  have hdepth : (scanned part).depth = 0 := hsettles.depth
  refine ⟨h, by omega, ?_⟩
  intro other hother hlevel
  rcases h.total hother with hprefix | hprefix
  · exact hprefix
  · by_cases hneq : other = part
    · rw [hneq]
    · have hne := (fromBrace_iff.1 hother).1
      have hlt := closed_lt_opened h hsettles hprefix hne hneq
      omega

theorem FirstObject.unique {other : CodePoints} (h : FirstObject text part)
    (hother : FirstObject text other) : part = other := by
  have hprefix := h.shortest other hother.toFromBrace hother.level
  have hprefix' := hother.shortest part h.toFromBrace h.level
  exact hprefix.eq_of_length_le hprefix'.length_le

/-- What is found is the first object. -/
theorem balancedObject?_eq_some_iff : balancedObject? text = some part ↔ FirstObject text part := by
  constructor
  · intro h
    obtain ⟨hpart, hsettles⟩ := settles_of_balancedObject? h
    exact firstObject_of_settles hpart hsettles
  · intro h
    cases hfound : balancedObject? text with
    | none =>
      -- the scan never came back, so that the part has more braces opened than closed
      have hdepth := h.depth_ne_zero hfound
      have hcount : (scanned part).depth + closed part = opened part := by
        apply depth_add_closed h.opens
        intro qs hqs hne _
        exact (h.of_prefix hne hqs).depth_ne_zero hfound
      have hlevel := h.level
      omega
    | some other =>
      obtain ⟨hother, hsettles⟩ := settles_of_balancedObject? hfound
      rw [h.unique (firstObject_of_settles hother hsettles)]

theorem FirstObject.closed_lt_opened {shorter : CodePoints} (h : FirstObject text part)
    (hshorter : shorter <+: part) (hne : shorter ≠ []) (hneq : shorter ≠ part) :
    closed shorter < opened shorter := by
  obtain ⟨hpart, hsettles⟩ := settles_of_balancedObject? (balancedObject?_eq_some_iff.2 h)
  exact StringMap.closed_lt_opened hpart hsettles hshorter hne hneq

end

end ResilientCalls.StringMap
