import ResilientCalls.Schema

namespace ResilientCalls.Summary

open Schema

inductive Style where
  | concise
  | detailed
  | bulletPoints
  deriving DecidableEq

def Style.name : Style → String
  | .concise => "concise"
  | .detailed => "detailed"
  | .bulletPoints => "bullet-points"

def styles : List (String × Style) :=
  [(Style.name .concise, .concise), (Style.name .detailed, .detailed),
    (Style.name .bulletPoints, .bulletPoints)]

/-- How long a summary may be, in which style and in which language. -/
structure Settings where
  maxLength : IntWithin 50 1000
  style : Style
  language : TextWithin 1 50
  deriving DecidableEq

namespace Settings

def maxLengthName : Name := ⟨"maxLength", "max_length"⟩
def styleName : Name := ⟨"style", "style"⟩
def languageName : Name := ⟨"language", "language"⟩

def default : Settings := ⟨⟨200, by decide⟩, .concise, ⟨"English", by decide⟩⟩

def ofFields (fields : List (String × Json)) : Checked Settings :=
  (both (both
      (optional maxLengthName fields default.maxLength (intWithin 50 1000))
      (optional styleName fields default.style (choice styles)))
    (optional languageName fields default.language (textWithin 1 50))).map
  fun p => ⟨p.1.1, p.1.2, p.2⟩

def ofJson : Json → Checked Settings := record "SummarizerConfig" ofFields

def fields (s : Settings) (spelling : Spelling) : List (String × Json) :=
  [(maxLengthName.spelled spelling, .int s.maxLength.val),
    (styleName.spelled spelling, .text s.style.name),
    (languageName.spelled spelling, .text s.language.val)]

end Settings

/-- Bounds on the length of a text to summarize. -/
def minText : Nat := 50

def maxText : Nat := 50000

structure Request where
  text : TextWithin minText maxText
  settings : Option Settings
  deriving DecidableEq

namespace Request

def textName : Name := ⟨"text", "text"⟩
def settingsName : Name := ⟨"config", "config"⟩

def ofFields (fields : List (String × Json)) : Checked Request :=
  (both
    (required textName fields (textWithin minText maxText))
    (optional settingsName fields none (nullable Settings.ofJson))).map
  fun p => ⟨p.1, p.2⟩

def ofJson : Json → Checked Request := record "SummarizeRequest" ofFields

/-- Absent settings are left out of a payload and null in a record. -/
def fields (r : Request) (spelling : Spelling) : List (String × Json) :=
  (textName.spelled spelling, .text r.text.val) ::
    match r.settings, spelling with
    | some s, _ => [(settingsName.spelled spelling, .object (s.fields spelling))]
    | none, .wire => []
    | none, .plain => [(settingsName.spelled spelling, .null)]

end Request

/-- Estimated token counts of a call. -/
structure TokenUsage where
  input : Int
  output : Int
  deriving DecidableEq

namespace TokenUsage

def inputName : Name := ⟨"input", "input"⟩
def outputName : Name := ⟨"output", "output"⟩

def ofFields (fields : List (String × Json)) : Checked TokenUsage :=
  (both (required inputName fields int) (required outputName fields int)).map
    fun p => ⟨p.1, p.2⟩

def ofJson : Json → Checked TokenUsage := record "TokenUsage" ofFields

def fields (u : TokenUsage) (spelling : Spelling) : List (String × Json) :=
  [(inputName.spelled spelling, .int u.input), (outputName.spelled spelling, .int u.output)]

end TokenUsage

/-- A summary, the model's or an extract of the text. In a payload it is a string. -/
structure Result (α : Type := CodePoints) where
  summary : α
  textLength : Int
  summaryLength : Int
  tokensUsed : TokenUsage
  deriving DecidableEq

namespace Result

def summaryName : Name := ⟨"summary", "summary"⟩
def textLengthName : Name := ⟨"originalLength", "original_length"⟩
def summaryLengthName : Name := ⟨"summaryLength", "summary_length"⟩
def tokensUsedName : Name := ⟨"tokensUsed", "tokens_used"⟩

def ofFields (fields : List (String × Json)) : Checked (Result String) :=
  (both (both (both
      (required summaryName fields text)
      (required textLengthName fields int))
    (required summaryLengthName fields int))
    (required tokensUsedName fields TokenUsage.ofJson)).map
  fun p => ⟨p.1.1.1, p.1.1.2, p.1.2, p.2⟩

def ofJson : Json → Checked (Result String) := record "SummaryResult" ofFields

def fields (r : Result String) (spelling : Spelling) : List (String × Json) :=
  [(summaryName.spelled spelling, .text r.summary),
    (textLengthName.spelled spelling, .int r.textLength),
    (summaryLengthName.spelled spelling, .int r.summaryLength),
    (tokensUsedName.spelled spelling, .object (r.tokensUsed.fields spelling))]

end Result

end ResilientCalls.Summary
