import ResilientCalls.Service
import ResilientCalls.Summary.Extract
import ResilientCalls.Summary.Prompt

namespace ResilientCalls.Summary

variable {τ σ : Type}

/-- The checked request for a text, which is trimmed first. -/
def Request.of (text : String) (settings : Json) : Schema.Checked Request :=
  Request.ofJson (.object
    [(Request.textName.wire, .text (Text.trimmed text)), (Request.settingsName.wire, settings)])

def Settings.labels (s : Settings) : List (String × Json) :=
  [("style", .text s.style.name), ("language", .text s.language.val)]

/-- The result that reports a summary of a text. -/
def Result.of (summary : CodePoints) (text : String) (inputTokens : Nat) : Result :=
  { summary, textLength := text.length, summaryLength := summary.length,
    tokensUsed := ⟨inputTokens, tokens summary.length⟩ }

def onRetry (s : Service) (provider : String) (settings : Settings) (f : Failure) (made : Nat) :
    Run τ σ Unit := do
  s.logged provider .warning "Retrying summarize" (("attempt", .int made) :: Service.errorFields f)
  s.count s.retryMetric
    ([("attempt", .int made), ("status", Service.retryStatusLabel f.status)] ++ settings.labels)

/-- The model's summary, trimmed. -/
def ask (p : Provider τ σ) (system text : String) : Run τ σ CodePoints := do
  let output := (← p.generate system (userPrompt text) false).trim
  if output = [] then Effect.fail (.emptyResponse p.name "") else pure output

/-- The model's summary, once an attempt has succeeded. -/
def modelSummary (s : Service) (g : Breaker.Guard (World τ σ)) (p : Provider τ σ)
    (wait : Binary64 → Run τ σ Unit) (settings : Settings) (system text : String) :
    Run τ σ CodePoints := do
  let summary ←
    s.attempts g wait Failure.isTransient (onRetry s p.name settings) (ask p system text)
  s.checkpoint "after-run"
  pure summary

/-- The extract that stands in for a summary after a failure. -/
def fallback (s : Service) (provider : String) (settings : Settings) (text : String)
    (inputTokens : Nat) (f : Failure) : Run τ σ Result := do
  s.logged provider .warning "Summarize failed, using extractive fallback"
    (("status", f.status) :: Service.errorFields f)
  s.count s.outcomeMetric
    ([("result", .text "fallback"), ("status", Service.statusLabel f.status)] ++ settings.labels)
  s.checkpoint "fallback"
  pure (Result.of (.ofString (extract text settings.maxLength.val)) text inputTokens)

def succeeded (s : Service) (provider : String) (settings : Settings) (text : String)
    (inputTokens : Nat) (summary : CodePoints) : Run τ σ Result := do
  s.count s.outcomeMetric
    ([("result", .text "success"), ("status", .int 200)] ++ settings.labels)
  s.logged provider .debug "Summary generated" [("summary_length", .int summary.length)]
  pure (Result.of summary text inputTokens)

/-- The summary of a checked request. -/
def answer (s : Service) (g : Breaker.Guard (World τ σ)) (p : Provider τ σ)
    (wait : Binary64 → Run τ σ Unit) (r : Request) : Run τ σ Result := do
  let text := r.text.val
  let settings := r.settings.getD .default
  let system := systemPrompt settings.maxLength.val settings.style settings.language.val
  let inputTokens := tokens (system.length + text.length)
  s.checkpoint "before-run"
  match ← Effect.ending (modelSummary s g p wait settings system text) with
  | .ok summary => succeeded s p.name settings text inputTokens summary
  | .error (.failed f) => fallback s p.name settings text inputTokens f
  | .error .cancelled => Effect.stop .cancelled

/-- The summary of a text, with the model's attempts made under a guard. -/
def summarizeUnder (s : Service) (g : Breaker.Guard (World τ σ)) (p : Provider τ σ)
    (wait : Binary64 → Run τ σ Unit) (text : String) (settings : Json) : Run τ σ Result :=
  match Request.of text settings with
  | .error issues => Effect.fail (Schema.rejected issues)
  | .ok r => answer s g p wait r

/-- The summary of a text. -/
def summarize [Clock τ] (s : Service) (p : Provider τ σ) (wait : Binary64 → Run τ σ Unit)
    (text : String) (settings : Json) : Run τ σ Result :=
  summarizeUnder s s.guard p wait text settings

end ResilientCalls.Summary
