import ResilientCalls.Schema

namespace ResilientCalls.Localization

open Schema

/-- A text to translate, under a key that is unique in its batch. -/
structure Entry where
  key : TextFrom 1
  text : String
  description : Option String
  deriving DecidableEq

/-- A field that is left out of a payload when it is absent, and null in a record. -/
def absentable (n : Name) (spelling : Spelling) : Option Json → List (String × Json)
  | some j => [(n.spelled spelling, j)]
  | none =>
    match spelling with
    | .wire => []
    | .plain => [(n.plain, .null)]

namespace Entry

def keyName : Name := ⟨"key", "key"⟩
def textName : Name := ⟨"text", "text"⟩
def descriptionName : Name := ⟨"description", "description"⟩

def ofFields (fields : List (String × Json)) : Checked Entry :=
  (both (both
      (required keyName fields (textFrom 1))
      (required textName fields Schema.text))
    (optional descriptionName fields none (nullable Schema.text))).map
  fun p => ⟨p.1.1, p.1.2, p.2⟩

def ofJson : Json → Checked Entry := record "TranslationEntry" ofFields

def fields (e : Entry) (spelling : Spelling) : List (String × Json) :=
  [(keyName.spelled spelling, .text e.key.val), (textName.spelled spelling, .text e.text)] ++
    absentable descriptionName spelling (e.description.map .text)

/-- The characters of the text and of the description. -/
def characterCount (e : Entry) : Nat := e.text.length + (e.description.getD "").length

end Entry

/-- The markup of the texts of a batch. -/
inductive Format where
  | plain
  | markdown
  | html
  deriving DecidableEq

def Format.name : Format → String
  | .plain => "plain"
  | .markdown => "markdown"
  | .html => "html"

def formats : List (String × Format) :=
  [(Format.name .plain, .plain), (Format.name .markdown, .markdown), (Format.name .html, .html)]

structure Batch where
  entries : List Entry
  sourceLocale : TextFrom 1
  targetLocale : TextFrom 1
  tone : Option String
  format : Format
  deriving DecidableEq

namespace Batch

def entriesName : Name := ⟨"entries", "entries"⟩
def sourceLocaleName : Name := ⟨"sourceLocale", "source_locale"⟩
def targetLocaleName : Name := ⟨"targetLocale", "target_locale"⟩
def toneName : Name := ⟨"tone", "tone"⟩
def formatName : Name := ⟨"format", "format"⟩

def ofFields (fields : List (String × Json)) : Checked Batch :=
  (both (both (both (both
      (optional entriesName fields [] (list Entry.ofJson))
      (required sourceLocaleName fields (textFrom 1)))
    (required targetLocaleName fields (textFrom 1)))
    (optional toneName fields none (nullable Schema.text)))
    (optional formatName fields .plain (choice formats))).map
  fun p => ⟨p.1.1.1.1, p.1.1.1.2, p.1.1.2, p.1.2, p.2⟩

def ofJson : Json → Checked Batch := record "TranslationBatchRequest" ofFields

def fields (b : Batch) (spelling : Spelling) : List (String × Json) :=
  [(entriesName.spelled spelling, .list (b.entries.map fun e => .object (e.fields spelling))),
    (sourceLocaleName.spelled spelling, .text b.sourceLocale.val),
    (targetLocaleName.spelled spelling, .text b.targetLocale.val)] ++
    absentable toneName spelling (b.tone.map .text) ++
    [(formatName.spelled spelling, .text b.format.name)]

def characterCount (b : Batch) : Nat := b.entries.foldr (·.characterCount + ·) 0

end Batch

/-- The translated text of one entry. In a payload it is a string. -/
structure Result (α : Type := CodePoints) where
  key : String
  translatedText : α
  deriving DecidableEq

namespace Result

def keyName : Name := ⟨"key", "key"⟩
def translatedTextName : Name := ⟨"translatedText", "translated_text"⟩

def ofFields (fields : List (String × Json)) : Checked (Result String) :=
  (both (required keyName fields Schema.text) (required translatedTextName fields Schema.text)).map
    fun p => ⟨p.1, p.2⟩

def ofJson : Json → Checked (Result String) := record "TranslationResult" ofFields

def fields (r : Result String) (spelling : Spelling) : List (String × Json) :=
  [(keyName.spelled spelling, .text r.key),
    (translatedTextName.spelled spelling, .text r.translatedText)]

end Result

end ResilientCalls.Localization
