import ResilientCalls.Localization.Model
import ResilientCalls.Proofs.Schema.Checks
import ResilientCalls.Summary.Model

namespace ResilientCalls

/-- The words of a name without the underscores between them: each but the first has a capital. -/
def runTogether : List Char → List Char
  | '_' :: c :: rest => c.toUpper :: runTogether rest
  | c :: rest => c :: runTogether rest
  | [] => []

example : runTogether "max_length".toList = "maxLength".toList := by decide

namespace Json

mutual

/-- A record in the form of a payload, with all that is in it. -/
def payload : Json → Json
  | .null => .null
  | .bool b => .bool b
  | .int n => .int n
  | .float x => .float x
  | .text s => .text s
  | .list items => .list (payloadItems items)
  | .object fields => .object (payloadFields fields)

def payloadItems : List Json → List Json
  | [] => []
  | j :: rest => payload j :: payloadItems rest

/-- A field that is null is left out. -/
def payloadFields : List (String × Json) → List (String × Json)
  | [] => []
  | (name, j) :: rest =>
    if j.isNull then payloadFields rest
    else (String.ofList (runTogether name.toList), payload j) :: payloadFields rest

end

theorem payloadItems_eq_map (items : List Json) : payloadItems items = items.map payload := by
  induction items with
  | nil => rfl
  | cons j rest ih => rw [payloadItems, ih, List.map_cons]

end Json

namespace Schema

variable {α : Type}

/-- A way to write the values of a type, and a check that reads them. -/
structure ReadBack (fields : α → Spelling → List (String × Json)) (ofJson : Json → Checked α) :
    Prop where
  reads : ∀ a spelling, ofJson (.object (fields a spelling)) = .ok a
  payload : ∀ a, Json.object (fields a .wire) = (Json.object (fields a .plain)).payload
  distinct : ∀ a b, fields a .wire = fields b .wire → a = b

theorem ReadBack.of_reads {fields : α → Spelling → List (String × Json)}
    {ofJson : Json → Checked α} (hr : ∀ a spelling, ofJson (.object (fields a spelling)) = .ok a)
    (hp : ∀ a, Json.object (fields a .wire) = (Json.object (fields a .plain)).payload) :
    ReadBack fields ofJson where
  reads := hr
  payload := hp
  distinct := by
    intro a b h
    have ha := hr a .wire
    rw [h, hr b .wire] at ha
    exact (Except.ok.inj ha).symm

/-- Items that are read one by one are read together, wherever they begin. -/
theorem items_map {check : Json → Checked α} {write : α → Json}
    (h : ∀ a, check (write a) = .ok a) (as : List α) (index : Nat) :
    items check index (as.map write) = .ok as := by
  induction as generalizing index with
  | nil => rfl
  | cons a as ih =>
    rw [List.map_cons, items, ih, h]
    rfl

end Schema

open Schema

namespace Summary

theorem choice_style (style : Style) : choice styles (.text style.name) = .ok style := by
  cases style <;> rfl

theorem Settings.readBack : ReadBack Settings.fields Settings.ofJson := by
  refine .of_reads (fun s spelling => ?_) fun s => rfl
  have hlength : optional maxLengthName (s.fields spelling) default.maxLength (intWithin 50 1000) =
      .ok s.maxLength :=
    optional_of_find? spelling (by cases spelling <;> rfl) _ (intWithin_eq_ok_iff.2 rfl)
  have hstyle : optional styleName (s.fields spelling) default.style (choice styles) =
      .ok s.style :=
    optional_of_find? spelling (by cases spelling <;> rfl) _ (choice_style s.style)
  have hlanguage : optional languageName (s.fields spelling) default.language (textWithin 1 50) =
      .ok s.language :=
    optional_of_find? spelling (by cases spelling <;> rfl) _ (textWithin_eq_ok_iff.2 rfl)
  show ofFields _ = _
  rw [ofFields, hlength, hstyle, hlanguage]
  rfl

theorem Request.readBack : ReadBack Request.fields Request.ofJson := by
  refine .of_reads (fun r spelling => ?_) fun r => ?_
  · have htext : required textName (r.fields spelling) (textWithin minText maxText) = .ok r.text :=
      required_of_find? spelling (by cases spelling <;> rfl) (textWithin_eq_ok_iff.2 rfl)
    have hsettings : optional settingsName (r.fields spelling) none (nullable Settings.ofJson) =
        .ok r.settings := by
      obtain ⟨text, settings⟩ := r
      cases settings with
      | some s =>
        have hread : nullable Settings.ofJson (.object (s.fields spelling)) = .ok (some s) :=
          nullable_eq_ok_iff.2 (Or.inr ⟨by simp, s, Settings.readBack.reads s spelling, rfl⟩)
        exact optional_of_find? spelling (by cases spelling <;> rfl) _ hread
      | none =>
        -- a record has a null here, and a payload has nothing
        cases spelling with
        | wire => exact optional_of_find?_none rfl _
        | plain => exact optional_of_find? .plain rfl _ rfl
    show ofFields _ = _
    rw [ofFields, htext, hsettings]
    rfl
  · obtain ⟨text, settings⟩ := r
    cases settings <;> rfl

theorem TokenUsage.readBack : ReadBack TokenUsage.fields TokenUsage.ofJson := by
  refine .of_reads (fun u spelling => ?_) fun u => rfl
  cases spelling <;> rfl

theorem Result.readBack : ReadBack Result.fields Result.ofJson := by
  refine .of_reads (fun r spelling => ?_) fun r => rfl
  cases spelling <;> rfl

end Summary

namespace Localization

theorem choice_format (format : Format) : choice formats (.text format.name) = .ok format := by
  cases format <;> rfl

theorem Entry.readBack : ReadBack Entry.fields Entry.ofJson := by
  refine .of_reads (fun e spelling => ?_) fun e => ?_
  · have hkey : required keyName (e.fields spelling) (textFrom 1) = .ok e.key :=
      required_of_find? spelling (by cases spelling <;> rfl) (textFrom_eq_ok_iff.2 rfl)
    have htext : required textName (e.fields spelling) Schema.text = .ok e.text :=
      required_of_find? spelling (by cases spelling <;> rfl) rfl
    have hdescription :
        optional descriptionName (e.fields spelling) none (nullable Schema.text) =
          .ok e.description := by
      obtain ⟨key, text, description⟩ := e
      cases description <;> cases spelling <;> rfl
    show ofFields _ = _
    rw [ofFields, hkey, htext, hdescription]
    rfl
  · obtain ⟨key, text, description⟩ := e
    cases description <;> rfl

theorem Batch.find?_fields (b : Batch) (spelling : Spelling) :
    entriesName.find? (b.fields spelling) = some (entriesName.spelled spelling,
        .list (b.entries.map fun e => .object (e.fields spelling))) ∧
      sourceLocaleName.find? (b.fields spelling) =
        some (sourceLocaleName.spelled spelling, .text b.sourceLocale.val) ∧
      targetLocaleName.find? (b.fields spelling) =
        some (targetLocaleName.spelled spelling, .text b.targetLocale.val) ∧
      formatName.find? (b.fields spelling) =
        some (formatName.spelled spelling, .text b.format.name) := by
  obtain ⟨entries, source, target, tone, format⟩ := b
  refine ⟨?_, ?_, ?_, ?_⟩
  all_goals cases tone <;> cases spelling <;> rfl

theorem Batch.readBack : ReadBack Batch.fields Batch.ofJson := by
  refine .of_reads (fun b spelling => ?_) fun b => ?_
  · have hread : list Entry.ofJson (.list (b.entries.map fun e => .object (e.fields spelling))) =
        .ok b.entries := items_map (fun e => Entry.readBack.reads e spelling) b.entries 0
    have hentries : optional entriesName (b.fields spelling) [] (list Entry.ofJson) =
        .ok b.entries := optional_of_find? spelling (find?_fields b spelling).1 _ hread
    have hsource : required sourceLocaleName (b.fields spelling) (textFrom 1) =
        .ok b.sourceLocale :=
      required_of_find? spelling (find?_fields b spelling).2.1 (textFrom_eq_ok_iff.2 rfl)
    have htarget : required targetLocaleName (b.fields spelling) (textFrom 1) =
        .ok b.targetLocale :=
      required_of_find? spelling (find?_fields b spelling).2.2.1 (textFrom_eq_ok_iff.2 rfl)
    have hformat : optional formatName (b.fields spelling) .plain (choice formats) =
        .ok b.format :=
      optional_of_find? spelling (find?_fields b spelling).2.2.2 _ (choice_format b.format)
    have htone : optional toneName (b.fields spelling) none (nullable Schema.text) =
        .ok b.tone := by
      obtain ⟨entries, source, target, tone, format⟩ := b
      cases tone <;> cases spelling <;> rfl
    show ofFields _ = _
    rw [ofFields, hentries, hsource, htarget, htone, hformat]
    rfl
  · have hentries : b.entries.map (fun e => Json.object (e.fields .wire)) =
        Json.payloadItems (b.entries.map fun e => .object (e.fields .plain)) := by
      rw [Json.payloadItems_eq_map, List.map_map]
      exact List.map_congr_left fun e _ => Entry.readBack.payload e
    obtain ⟨entries, source, target, tone, format⟩ := b
    cases tone <;> simp only [fields, hentries] <;> rfl

theorem Result.readBack : ReadBack Result.fields Result.ofJson := by
  refine .of_reads (fun r spelling => ?_) fun r => rfl
  cases spelling <;> rfl

end Localization

/-- Every value is read back from its payload, which has the names of its record run together and
leaves out the nulls, and from the record itself; so different values have different payloads. -/
theorem payloads_read_back :
    ReadBack Localization.Entry.fields Localization.Entry.ofJson ∧
    ReadBack Localization.Batch.fields Localization.Batch.ofJson ∧
    ReadBack Localization.Result.fields Localization.Result.ofJson ∧
    ReadBack Summary.Settings.fields Summary.Settings.ofJson ∧
    ReadBack Summary.Request.fields Summary.Request.ofJson ∧
    ReadBack Summary.TokenUsage.fields Summary.TokenUsage.ofJson ∧
    ReadBack Summary.Result.fields Summary.Result.ofJson :=
  ⟨Localization.Entry.readBack, Localization.Batch.readBack, Localization.Result.readBack,
    Summary.Settings.readBack, Summary.Request.readBack, Summary.TokenUsage.readBack,
    Summary.Result.readBack⟩

end ResilientCalls
