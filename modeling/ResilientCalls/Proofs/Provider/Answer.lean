import Mathlib.Data.List.Forall2
import ResilientCalls.Proofs.Effect
import ResilientCalls.Provider.Answer

namespace ResilientCalls

namespace Provider

namespace Answer

abbrev Fields := List (CodePoints × Document)

/-- The value of a name, null if it has none. -/
def field (fields : Fields) (name : String) : Document :=
  (Json.get? (CodePoints.ofString name) fields).getD .null

/-- What a value amounts to where one of a certain kind is expected: one that holds nothing amounts
to nothing, whatever its own kind is. -/
inductive Amounts {α : Type} (kind : α → Document) (nothing : α) : Document → α → Prop
  | vacant {j : Document} (h : j.holds = false) : Amounts kind nothing j nothing
  | made (a : α) : Amounts kind nothing (kind a) a

abbrev AsObject : Document → Fields → Prop := Amounts .object []

abbrev AsList : Document → List Document → Prop := Amounts .list []

abbrev AsText : Document → CodePoints → Prop := Amounts .text []

/-- The value of a name in the first of some objects; null if there are none. -/
inductive Leads (name : String) : List Document → Document → Prop
  | none : Leads name [] .null
  | first (fields : Fields) (others : List Document) :
      Leads name (.object fields :: others) (field fields name)

/-- A part is an object, whatever else it holds besides its text. -/
def Says (part : Document) (text : CodePoints) : Prop :=
  ∃ fields, part = .object fields ∧ AsText (field fields "text") text

/-- The texts of the parts of the first candidate's content. -/
structure Candidates (body : Fields) (texts : List CodePoints) : Prop where
  shape : ∃ candidates content entries parts, AsList (field body "candidates") candidates ∧
    Leads "content" candidates content ∧ AsObject content entries ∧
    AsList (field entries "parts") parts ∧ List.Forall₂ Says parts texts

/-- The text of the first choice's message. -/
structure Choices (body : Fields) (texts : List CodePoints) : Prop where
  shape : ∃ choices message entries text, AsList (field body "choices") choices ∧
    Leads "message" choices message ∧ AsObject message entries ∧
    AsText (field entries "content") text ∧ texts = [text]

end Answer

open Answer

/-- The texts that a body shows, in order. -/
def Family.Shows : Family → Fields → List CodePoints → Prop
  | .gemini => Candidates
  | .gpt => Choices

namespace Answer

theorem orElse_of_holds {j default : Document} (h : j.holds = true) : orElse j default = j :=
  if_pos h

theorem orElse_of_vacant {j default : Document} (h : j.holds = false) :
    orElse j default = default := by
  rw [orElse, h]
  rfl

theorem amounts_iff {α : Type} {kind : α → Document} {nothing : α}
    (hinj : Function.Injective kind) (hholds : ∀ a, (kind a).holds = false → a = nothing)
    {j : Document} {a : α} : Amounts kind nothing j a ↔ orElse j (kind nothing) = kind a := by
  constructor
  · rintro (hvacant | _)
    · exact orElse_of_vacant hvacant
    · cases ha : (kind a).holds with
      | false => rw [orElse_of_vacant ha, hholds a ha]
      | true => exact orElse_of_holds ha
  · intro h
    cases hj : j.holds with
    | false =>
      rw [orElse_of_vacant hj] at h
      rw [← hinj h]
      exact .vacant hj
    | true =>
      rw [orElse_of_holds hj] at h
      rw [h]
      exact .made a

theorem asObject_iff {j : Document} {fields : Fields} :
    AsObject j fields ↔ orElse j (.object []) = .object fields :=
  amounts_iff (fun _ _ => Json.object.inj) fun fields h => by simpa [Json.holds] using h

theorem asList_iff {j : Document} {js : List Document} :
    AsList j js ↔ orElse j (.list []) = .list js :=
  amounts_iff (fun _ _ => Json.list.inj) fun js h => by simpa [Json.holds] using h

theorem asText_iff {j : Document} {s : CodePoints} :
    AsText j s ↔ orElse j (.text []) = .text s :=
  amounts_iff (fun _ _ => Json.text.inj) fun s h => by cases s <;> [rfl; cases h]

theorem member_eq_ok_iff {j v : Document} {name : String} :
    member j name = .ok v ↔ ∃ fields, j = .object fields ∧ v = field fields name := by
  cases j with
  | object fields => simp [member, field, eq_comm]
  | _ => simp [member]

theorem member_of_asObject {j : Document} {fields : Fields} (h : AsObject j fields)
    (name : String) : member (orElse j (.object [])) name = .ok (field fields name) := by
  rw [asObject_iff.1 h]
  rfl

theorem textsOf_eq_ok_iff {parts ts : List Document} :
    textsOf parts = .ok ts ↔
      List.Forall₂ (fun j t => ∃ fields, j = .object fields ∧
        t = orElse (field fields "text") (.text [])) parts ts := by
  induction parts generalizing ts with
  | nil => simp [textsOf, eq_comm]
  | cons j parts ih =>
    rw [textsOf, List.forall₂_cons_left_iff]
    constructor
    · intro h
      obtain ⟨v, hv, h⟩ := exists_of_bind_ok h
      obtain ⟨rest, hrest, h⟩ := exists_of_bind_ok h
      obtain ⟨fields, rfl, rfl⟩ := member_eq_ok_iff.1 hv
      exact ⟨_, rest, ⟨fields, rfl, rfl⟩, ih.1 hrest, (Except.ok.inj h).symm⟩
    · rintro ⟨t, rest, ⟨fields, rfl, rfl⟩, hrest, rfl⟩
      rw [ih.2 hrest]
      rfl

theorem concatenated_eq_ok_iff {place : Nat} {ts : List Document} {s : CodePoints} :
    concatenated place ts = .ok s ↔
      ∃ texts : List CodePoints, ts = texts.map .text ∧ s = texts.flatten := by
  induction ts generalizing place s with
  | nil =>
    rw [concatenated]
    constructor
    · intro h
      exact ⟨[], rfl, (Except.ok.inj h).symm⟩
    · rintro ⟨texts, htexts, rfl⟩
      rw [List.map_eq_nil_iff.1 htexts.symm]
      rfl
  | cons t ts ih =>
    constructor
    · intro h
      cases t with
      | text u =>
        rw [concatenated] at h
        cases hrest : concatenated (place + 1) ts with
        | error f =>
          rw [hrest] at h
          cases h
        | ok rest =>
          rw [hrest] at h
          obtain ⟨texts, rfl, rfl⟩ := ih.1 hrest
          exact ⟨u :: texts, rfl, (Except.ok.inj h).symm⟩
      | _ => cases h
    · rintro ⟨texts, htexts, rfl⟩
      obtain ⟨u, texts, rfl, rfl, rfl⟩ := List.map_eq_cons_iff.1 htexts.symm
      rw [concatenated, ih.2 ⟨texts, rfl, rfl⟩]
      rfl

theorem joined_eq_ok_iff {parts : List Document} {s : CodePoints} :
    (textsOf parts >>= concatenated 0) = .ok s ↔
      ∃ texts, List.Forall₂ Says parts texts ∧ s = texts.flatten := by
  rw [bind_eq_ok_iff]
  constructor
  · rintro ⟨ts, hts, hs⟩
    obtain ⟨texts, rfl, rfl⟩ := concatenated_eq_ok_iff.1 hs
    have hsaid := List.forall₂_map_right_iff.1 (textsOf_eq_ok_iff.1 hts)
    refine ⟨texts, hsaid.imp fun part text h => ?_, rfl⟩
    obtain ⟨fields, hpart, htext⟩ := h
    exact ⟨fields, hpart, asText_iff.2 htext.symm⟩
  · rintro ⟨texts, hsaid, rfl⟩
    refine ⟨texts.map .text, ?_, concatenated_eq_ok_iff.2 ⟨texts, rfl, rfl⟩⟩
    refine textsOf_eq_ok_iff.2 (List.forall₂_map_right_iff.2 (hsaid.imp fun part text h => ?_))
    obtain ⟨fields, hpart, htext⟩ := h
    exact ⟨fields, hpart, (asText_iff.1 htext).symm⟩

/-- The items of a text or of an object are texts, which are no parts. -/
theorem asList_of_items {j : Document} {parts : List Document} {texts : List CodePoints}
    (hparts : items (orElse j (.list [])) = .ok parts) (htexts : List.Forall₂ Says parts texts) :
    AsList j parts := by
  cases hj : j.holds with
  | false =>
    rw [orElse_of_vacant hj] at hparts
    rw [← Except.ok.inj hparts]
    exact .vacant hj
  | true =>
    rw [orElse_of_holds hj] at hparts
    cases j with
    | list js =>
      rw [← Except.ok.inj hparts]
      exact .made js
    | text s =>
      obtain rfl := Except.ok.inj hparts
      cases s with
      | nil => cases hj
      | cons p s =>
        obtain ⟨_, _, ⟨_, hpart, -⟩, -⟩ := List.forall₂_cons_left_iff.1 htexts
        cases hpart
    | object fields =>
      obtain rfl := Except.ok.inj hparts
      cases fields with
      | nil => cases hj
      | cons f fields =>
        obtain ⟨_, _, ⟨_, hpart, -⟩, -⟩ := List.forall₂_cons_left_iff.1 htexts
        cases hpart
    | _ => cases hparts

/-- Of a value that holds something, the first item is an object only if the value is a list. -/
theorem first_member_eq_ok_iff {j v : Document} {name : String} (hj : j.holds = true) :
    (first j >>= fun item => member item name) = .ok v ↔
      ∃ js, j = .list js ∧ Leads name js v := by
  rw [bind_eq_ok_iff]
  constructor
  · rintro ⟨item, hitem, hv⟩
    obtain ⟨fields, rfl, rfl⟩ := member_eq_ok_iff.1 hv
    cases j with
    | list js =>
      cases js with
      | nil => cases hitem
      | cons item others =>
        obtain rfl := Except.ok.inj hitem
        exact ⟨_, rfl, .first fields others⟩
    | _ => cases hitem
  · rintro ⟨js, rfl, hlead⟩
    cases hlead with
    | none => cases hj
    | first fields others => exact ⟨.object fields, rfl, rfl⟩

/-- A reading that starts in the first of the objects that a name lists, and that makes no text of
nothing. -/
theorem lead_eq_ok_iff {body : Fields} {listed name : String}
    {rest : Document → Except Foreign CodePoints} (hrest : rest .null = .ok []) {s : CodePoints} :
    (if (!(orElse (field body listed) (.list [])).holds) = true then Pure.pure []
      else
        first (orElse (field body listed) (.list [])) >>= fun item => member item name >>= rest) =
        Except.ok s ↔
      ∃ js v, AsList (field body listed) js ∧ Leads name js v ∧ rest v = .ok s := by
  cases hlist : (orElse (field body listed) (.list [])).holds with
  | false =>
    -- nothing is listed, and what follows would make no text of null either
    have hnone : ∀ js, AsList (field body listed) js → js = [] := by
      intro js hjs
      rw [asList_iff.1 hjs] at hlist
      simpa [Json.holds] using hlist
    constructor
    · intro h
      refine ⟨[], .null, ?_, .none, ?_⟩
      · refine .vacant ?_
        cases hfield : (field body listed).holds with
        | false => rfl
        | true =>
          rw [orElse_of_holds hfield, hfield] at hlist
          cases hlist
      · rw [hrest]
        exact h
    · rintro ⟨js, v, hjs, hlead, hs⟩
      obtain rfl := hnone js hjs
      cases hlead
      rw [hrest] at hs
      exact hs
  | true =>
    constructor
    · intro h
      obtain ⟨item, hitem, h⟩ := exists_of_bind_ok h
      obtain ⟨v, hv, hs⟩ := exists_of_bind_ok h
      obtain ⟨js, hjs, hlead⟩ :=
        (first_member_eq_ok_iff hlist).1 (bind_eq_ok_iff.2 ⟨item, hitem, hv⟩)
      exact ⟨js, v, asList_iff.2 hjs, hlead, hs⟩
    · rintro ⟨js, v, hjs, hlead, hs⟩
      obtain ⟨item, hitem, hv⟩ :=
        bind_eq_ok_iff.1 ((first_member_eq_ok_iff hlist).2 ⟨js, asList_iff.1 hjs, hlead⟩)
      exact bind_eq_ok_iff.2 ⟨item, hitem, bind_eq_ok_iff.2 ⟨v, hv, hs⟩⟩

theorem ofCandidates_eq_ok_iff {body : Fields} {s : CodePoints} :
    ofCandidates (.object body) = .ok s ↔
      ∃ texts, Candidates body texts ∧ s = CodePoints.trim texts.flatten := by
  refine (lead_eq_ok_iff rfl).trans ?_
  constructor
  · rintro ⟨candidates, content, hcandidates, hlead, h⟩
    obtain ⟨j, hj, h⟩ := exists_of_bind_ok h
    obtain ⟨entries, hentries, rfl⟩ := member_eq_ok_iff.1 hj
    obtain ⟨parts, hparts, h⟩ := exists_of_bind_ok h
    obtain ⟨ts, hts, h⟩ := exists_of_bind_ok h
    obtain ⟨joined, hjoined, h⟩ := exists_of_bind_ok h
    obtain ⟨texts, htexts, rfl⟩ := joined_eq_ok_iff.1 (bind_eq_ok_iff.2 ⟨ts, hts, hjoined⟩)
    exact ⟨texts, ⟨candidates, content, entries, parts, hcandidates, hlead,
      asObject_iff.2 hentries, asList_of_items hparts htexts, htexts⟩, (Except.ok.inj h).symm⟩
  · rintro ⟨texts, ⟨candidates, content, entries, parts, hcandidates, hlead, hentries, hparts,
      htexts⟩, rfl⟩
    refine ⟨candidates, content, hcandidates, hlead, ?_⟩
    obtain ⟨ts, hts, hjoined⟩ := bind_eq_ok_iff.1 (joined_eq_ok_iff.2 ⟨texts, htexts, rfl⟩)
    refine bind_eq_ok_iff.2 ⟨_, member_of_asObject hentries "parts", ?_⟩
    rw [asList_iff.1 hparts]
    refine bind_eq_ok_iff.2 ⟨parts, rfl, ?_⟩
    exact bind_eq_ok_iff.2 ⟨ts, hts, bind_eq_ok_iff.2 ⟨_, hjoined, rfl⟩⟩

theorem ofChoices_eq_ok_iff {body : Fields} {s : CodePoints} :
    ofChoices (.object body) = .ok s ↔
      ∃ texts, Choices body texts ∧ s = CodePoints.trim texts.flatten := by
  refine (lead_eq_ok_iff rfl).trans ?_
  constructor
  · rintro ⟨choices, message, hchoices, hlead, h⟩
    obtain ⟨j, hj, h⟩ := exists_of_bind_ok h
    obtain ⟨entries, hentries, rfl⟩ := member_eq_ok_iff.1 hj
    split at h
    · rename_i text htext
      refine ⟨[text], ⟨choices, message, entries, text, hchoices, hlead, asObject_iff.2 hentries,
        asText_iff.2 htext, rfl⟩, ?_⟩
      rw [List.flatten_singleton]
      exact (Except.ok.inj h).symm
    · cases h
  · rintro ⟨_, ⟨choices, message, entries, text, hchoices, hlead, hentries, htext, rfl⟩, rfl⟩
    refine ⟨choices, message, hchoices, hlead, ?_⟩
    refine bind_eq_ok_iff.2 ⟨_, member_of_asObject hentries "content", ?_⟩
    rw [asText_iff.1 htext, List.flatten_singleton]
    rfl

end Answer

/-- A body is read as the texts that it shows, joined and without the blanks at the two ends. -/
theorem Family.answer_eq_ok_iff {family : Family} {body : Fields} {s : CodePoints} :
    family.answer (.object body) = .ok s ↔
      ∃ texts, family.Shows body texts ∧ s = CodePoints.trim texts.flatten := by
  cases family with
  | gemini => exact ofCandidates_eq_ok_iff
  | gpt => exact ofChoices_eq_ok_iff

namespace Answer

/-- The kinds of the failures that a body of an unexpected shape is met with. -/
def mistakes : List String := ["AttributeError", "KeyError", "TypeError"]

/-- If a reading fails, it is by a mistake about a shape. -/
def Errs {α : Type} (x : Except Foreign α) : Prop := ∀ f, x = .error f → f.kind ∈ mistakes

variable {α β : Type}

theorem Errs.ok (a : α) : Errs (.ok a) := fun _ h => by cases h

theorem Errs.error {f : Foreign} (h : f.kind ∈ mistakes) : Errs (.error f : Except Foreign α) :=
  fun _ hf => Except.error.inj hf ▸ h

theorem Errs.bind {x : Except Foreign α} {f : α → Except Foreign β} (hx : Errs x)
    (hf : ∀ a, Errs (f a)) : Errs (x >>= f) := by
  cases x with
  | ok a => exact hf a
  | error g => exact .error (hx g rfl)

theorem errs_member (j : Document) (name : String) : Errs (member j name) := by
  cases j with
  | object fields => exact .ok _
  | _ => exact .error (by simp [Foreign.kind, mistakes])

theorem errs_first (j : Document) : Errs (first j) := by
  cases j with
  | list js => cases js <;> exact .ok _
  | text s => exact .ok _
  | _ => exact .error (by simp [Foreign.kind, mistakes])

theorem errs_items (j : Document) : Errs (items j) := by
  cases j with
  | list js => exact .ok _
  | text s => exact .ok _
  | object fields => exact .ok _
  | _ => exact .error (by simp [Foreign.kind, mistakes])

theorem errs_textsOf (parts : List Document) : Errs (textsOf parts) := by
  induction parts with
  | nil => exact .ok _
  | cons j parts ih => exact .bind (errs_member j "text") fun _ => .bind ih fun _ => .ok _

theorem errs_concatenated (place : Nat) (ts : List Document) : Errs (concatenated place ts) := by
  induction ts generalizing place with
  | nil => exact .ok _
  | cons t ts ih =>
    cases t with
    | text s =>
      rw [concatenated]
      have hrest := ih (place + 1)
      cases h : concatenated (place + 1) ts with
      | ok rest => exact .ok _
      | error f => exact .error (hrest f h)
    | _ => exact .error (by simp [Foreign.kind, mistakes])

theorem errs_ofCandidates (body : Document) : Errs (ofCandidates body) := by
  refine .bind (errs_member body _) fun candidates => ?_
  dsimp only
  split
  · exact .ok _
  · refine .bind (errs_first _) fun item => .bind (errs_member item _) fun content => ?_
    refine .bind (errs_member _ _) fun parts => .bind (errs_items _) fun js => ?_
    exact .bind (errs_textsOf js) fun ts => .bind (errs_concatenated 0 ts) fun _ => .ok _

theorem errs_ofChoices (body : Document) : Errs (ofChoices body) := by
  refine .bind (errs_member body _) fun choices => ?_
  dsimp only
  split
  · exact .ok _
  · refine .bind (errs_first _) fun item => .bind (errs_member item _) fun message => ?_
    refine .bind (errs_member _ _) fun content => ?_
    split
    · exact .ok _
    · exact .error (by simp [Foreign.kind, mistakes])

end Answer

theorem Family.errs_answer (family : Family) (body : Document) : Errs (family.answer body) := by
  cases family with
  | gemini => exact errs_ofCandidates body
  | gpt => exact errs_ofChoices body

end Provider

end ResilientCalls
