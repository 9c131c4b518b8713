import ResilientCalls.Arguments
import ResilientCalls.Json.Print
import ResilientCalls.Localization.Model

namespace ResilientCalls.Localization

def defaultTone : String := "general audiences"

def systemPrompt (source target format : String) (tone : Option String) : String :=
  let audience := match tone with
    | some t => if t = "" then defaultTone else t
    | none => defaultTone
  "You are a professional localization specialist. Translate the provided entries from " ++ source
    ++ " to " ++ target ++ ".\nEntries are formatted as " ++ format ++ " text.\n\n"
    ++ "Output requirements:\n"
    ++ "- Respond with valid JSON only. Use the exact input keys.\n"
    ++ "- Preserve Markdown/HTML tags, emojis, placeholders "
    ++ "(e.g. \x7bname\x7d, \x7b\x7bvalue\x7d\x7d, <b>...</b>).\n"
    ++ "- Keep punctuation, spacing, variables, and array ordering intact.\n"
    ++ "- Use natural, localized phrasing suitable for " ++ audience ++ ".\n"
    ++ "- Do not explain the translation or include additional commentary."

def promptSignature : Signature :=
  ⟨"build_translation_system_prompt()", ["source_locale", "target_locale"], ["format", "tone"]⟩

/-- The prompt for arguments that have not been checked. -/
def loosePrompt (args : Arguments) : Except Failure String := do
  promptSignature.check args
  let tone := args.value "tone"
  return systemPrompt (args.value "source_locale").plain (args.value "target_locale").plain
    (args.valueOr "format" (.text Format.plain.name)).plain
    (if tone.holds then some tone.plain else none)

/-- An entry as the user prompt lists it. -/
def Entry.listed (e : Entry) : List (String × Json) :=
  ("key", .text e.key.val) ::
    (if e.text = "" then [] else [("text", .text e.text)]) ++
    match e.description with
    | some d => if d = "" then [] else [("description", .text d)]
    | none => []

def userPrompt (entries : List Entry) : String :=
  "Translate the following entries and respond with JSON mapping keys to translated strings.\n"
    ++ Json.print (.list (entries.map fun e => .object e.listed))

end ResilientCalls.Localization
