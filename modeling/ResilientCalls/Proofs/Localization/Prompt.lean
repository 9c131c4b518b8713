import ResilientCalls.Localization.Prompt
import ResilientCalls.Proofs.Json.Printing

namespace ResilientCalls.Localization

open CodePoints (ofString)

/-- An entry's key, its text and its description, where these are not empty. -/
structure Content where
  key : String
  text : Option String
  description : Option String

/-- A text that is not empty. -/
def filled? (s : String) : Option String := if s = "" then none else some s

/-- An entry without what is empty. -/
def Entry.content (e : Entry) : Content where
  key := e.key.val
  text := filled? e.text
  description := e.description.bind filled?

namespace Content

/-- What is there, under its name. -/
def field (name : String) (s : Option String) : List (String × Json) :=
  s.toList.map fun s => (name, .text s)

def listed (c : Content) : List (String × Json) :=
  field "key" (some c.key) ++ field "text" c.text ++ field "description" c.description

/-- Fields of a document that say of an entry what is there, each under its name and no name twice,
and nothing else. -/
structure Told (c : Content) (fields : List (CodePoints × Document)) : Prop where
  names : (fields.map (·.1)).Sublist [ofString "key", ofString "text", ofString "description"]
  key : Json.get? (ofString "key") fields = some (.text (ofString c.key))
  text : Json.get? (ofString "text") fields = c.text.map fun s => .text (ofString s)
  description :
    Json.get? (ofString "description") fields = c.description.map fun s => .text (ofString s)

theorem nodup_listed (c : Content) : (c.listed.map (·.1)).Nodup := by
  cases ht : c.text <;> cases hd : c.description <;> simp [listed, field, ht, hd]

theorem verbal_listed (c : Content) (n : Nat) : Json.Verbal (n + 1) (.object c.listed) := by
  refine .object c.nodup_listed fun f hf => ?_
  simp only [listed, field, List.mem_append, List.mem_map] at hf
  rcases hf with (⟨s, -, rfl⟩ | ⟨s, -, rfl⟩) | ⟨s, -, rfl⟩ <;> exact .text s

theorem told_listed (c : Content) : c.Told (c.listed.map Json.documentField) := by
  obtain ⟨key, text, description⟩ := c
  cases text <;> cases description <;> constructor <;>
    simp [listed, field, Json.documentField, Json.document, Json.map, Json.get?,
      CodePoints.ofString_injective.eq_iff]

theorem Told.unique {c c' : Content} {fields : List (CodePoints × Document)} (h : c.Told fields)
    (h' : c'.Told fields) : c = c' := by
  have hinj : Function.Injective fun s => (Json.text (ofString s) : Document) := fun s t hst =>
    CodePoints.ofString_injective (Json.text.inj hst)
  have hkey := h.key.symm.trans h'.key
  have htext := h.text.symm.trans h'.text
  have hdescription := h.description.symm.trans h'.description
  obtain ⟨key, text, description⟩ := c
  obtain ⟨key', text', description'⟩ := c'
  obtain rfl := hinj (Option.some.inj hkey)
  obtain rfl := Option.map_injective hinj htext
  obtain rfl := Option.map_injective hinj hdescription
  rfl

end Content

theorem Entry.listed_content (e : Entry) : e.content.listed = e.listed := by
  obtain ⟨key, text, description⟩ := e
  by_cases ht : text = "" <;> cases description with
  | none => simp [content, Content.listed, Content.field, listed, filled?, ht]
  | some d =>
    by_cases hd : d = "" <;>
      simp [content, Content.listed, Content.field, listed, filled?, ht, hd]

/-- The text of what entries list. -/
def listing (contents : List Content) : String :=
  Json.print (.list (contents.map fun c => .object c.listed))

/-- The line before the listing. -/
def opening : String :=
  "Translate the following entries and respond with JSON mapping keys to translated strings.\n"

theorem userPrompt_eq (entries : List Entry) :
    userPrompt entries = opening ++ listing (entries.map Entry.content) := by
  have hlisted : (entries.map Entry.content).map (fun c => Json.object c.listed) =
      entries.map fun e => .object e.listed := by
    rw [List.map_map]
    exact List.map_congr_left fun e _ => congrArg Json.object e.listed_content
  rw [listing, hlisted]
  rfl

/-- The part of the prompt after its first line is the text of what the entries list. -/
theorem dropWhile_userPrompt (entries : List Entry) :
    (userPrompt entries).toList.dropWhile (· ≠ '\n') =
      '\n' :: (listing (entries.map Entry.content)).toList := by
  have hline : opening.toList.dropWhile (· ≠ '\n') = ['\n'] := by decide
  rw [userPrompt_eq, String.toList_append, List.dropWhile_append, hline]
  rfl

theorem decode_listing [Json.Depth] (contents : List Content) :
    Json.decode (ofString (listing contents)) =
      .ok (.list (contents.map fun c => .object (c.listed.map Json.documentField))) := by
  have hverbal : Json.Verbal Json.Depth.most (.list (contents.map fun c => .object c.listed)) := by
    rw [← Nat.sub_add_cancel Json.Depth.two_le]
    refine .list fun j hj => ?_
    obtain ⟨c, -, rfl⟩ := List.mem_map.1 hj
    exact c.verbal_listed _
  rw [listing, Json.decode_print hverbal, Json.document_list, List.map_map]
  simp only [Function.comp_def, Json.document_object]

/-- A listing tells of each entry all there is to tell. -/
theorem listing_injective : Function.Injective listing := by
  let _ : Json.Depth := ⟨2, le_rfl⟩
  intro contents contents' h
  have hobject : Function.Injective fun c : Content =>
      (Json.object (c.listed.map Json.documentField) : Document) := by
    intro c c' hc
    have htold := c'.told_listed
    rw [← Json.object.inj hc] at htold
    exact c.told_listed.unique htold
  have hdecode := decode_listing contents
  rw [h, decode_listing] at hdecode
  exact (List.map_injective_iff.2 hobject (Json.list.inj (Except.ok.inj hdecode))).symm

/-- The user prompt is read back as what its entries have to say, in order; and two prompts are the
same only if this is. -/
theorem userPrompt_readBack [Json.Depth] :
    (∀ entries : List Entry, ∃ body items,
      (userPrompt entries).toList.dropWhile (· ≠ '\n') = '\n' :: body ∧
      Json.decode (body.map .char) = .ok (.list items) ∧
      List.Forall₂ (fun e v => ∃ fields, v = .object fields ∧ e.content.Told fields)
        entries items) ∧
    ∀ entries entries' : List Entry, userPrompt entries = userPrompt entries' ↔
      entries.map Entry.content = entries'.map Entry.content := by
  refine ⟨fun entries => ⟨_, _, dropWhile_userPrompt entries, decode_listing _, ?_⟩,
    fun entries entries' => ⟨fun h => ?_, fun h => by rw [userPrompt_eq, userPrompt_eq, h]⟩⟩
  · rw [List.map_map, List.forall₂_map_right_iff]
    exact List.forall₂_same.2 fun e _ => ⟨_, rfl, Content.told_listed _⟩
  · have hdrop := dropWhile_userPrompt entries
    rw [h, dropWhile_userPrompt] at hdrop
    exact listing_injective (String.toList_inj.1 (List.cons.inj hdrop).2).symm

end ResilientCalls.Localization
