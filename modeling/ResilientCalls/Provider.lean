import ResilientCalls.Provider.Call
import ResilientCalls.StringMap
import ResilientCalls.Localization.Prompt

namespace ResilientCalls

/-- What the services need of a provider: an answer to a prompt, and the translated texts of a
batch. -/
structure Provider (τ σ : Type) where
  name : String
  generate : (system user : String) → (json : Bool) → Run τ σ CodePoints
  translate : Localization.Batch → Run τ σ (List Localization.Result)
  deriving Inhabited

namespace Provider

variable {τ σ : Type}

/-- The string map of an answer; a failure to read it is logged. -/
def readMap [Json.Depth] (answer : CodePoints) : Run τ σ StringMap := do
  match StringMap.recover answer with
  | .ok m => pure m
  | .error reasons => do
    Run.logged ⟨.warning, "Failed to parse model response",
      [("candidates", .list (reasons.map fun r => .text r.origin.label)),
        ("response_length", .int answer.trim.length)]⟩
    Effect.fail (.unreadable answer (reasons.map fun r => (r.origin.label, r.message)))

/-- One result for each entry, in order; an entry that the map does not know keeps its text. -/
def lookUp (m : StringMap) (entries : List Localization.Entry) : List Localization.Result :=
  entries.map fun e => ⟨e.key.val, (m.text? e.key.val).getD (.ofString e.text)⟩

/-- The keys that a map does not know. -/
def missing (m : StringMap) (entries : List Localization.Entry) : List String :=
  (entries.map (·.key.val)).filter fun key => (m.text? key).isNone

/-- Translates a batch by one prompt. -/
def translateByPrompt [Json.Depth] (name : String) (model : Json)
    (generate : String → String → Bool → Run τ σ CodePoints) (b : Localization.Batch) :
    Run τ σ (List Localization.Result) := do
  let system :=
    Localization.systemPrompt b.sourceLocale.val b.targetLocale.val b.format.name b.tone
  let answer ← generate system (Localization.userPrompt b.entries) true
  let m ← readMap answer
  match missing m b.entries with
  | [] => pure ()
  | keys =>
    Run.logged ⟨.warning, "Model omitted translation keys",
      [("service", .text (name ++ "_provider")), ("model", model),
        ("missing_keys", .list (keys.map .text))]⟩
  pure (lookUp m b.entries)

/-- A provider that answers prompts in the given way. -/
def ofGenerate [Json.Depth] (name : String) (model : Json)
    (generate : String → String → Bool → Run τ σ CodePoints) : Provider τ σ :=
  ⟨name, generate, translateByPrompt name model generate⟩

/-- The provider that an adapter reaches. -/
def ofAdapter [Json.Depth] (a : Adapter) (t : Transport τ σ) (sink : Option Sink) :
    Provider τ σ :=
  ofGenerate a.name a.model fun system user json =>
    a.generate t sink (.text system) (.text user) json

end Provider

end ResilientCalls
