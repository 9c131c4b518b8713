import ResilientCalls.Service
import ResilientCalls.Localization.Limits

namespace ResilientCalls.Localization

variable {τ σ : Type}

/-- The text of the last result for a key. -/
def lastFor? (key : String) (results : List Result) : Option CodePoints :=
  (results.reverse.find? fun r => r.key = key).map (·.translatedText)

/-- One result for each entry, in order. An entry that no result is for keeps its text. -/
def align (entries : List Entry) (results : List Result) : List Result :=
  entries.map fun e => ⟨e.key.val, (lastFor? e.key.val results).getD (.ofString e.text)⟩

def labels (provider : String) (b : Batch) : List (String × Json) :=
  [("source", .text b.sourceLocale.val), ("target", .text b.targetLocale.val),
    ("provider", .text provider)]

def entriesField (n : Nat) : String × Json := ("entries", .int n)

def onRetry (s : Service) (provider : String) (b : Batch) (f : Failure) (made : Nat) :
    Run τ σ Unit := do
  s.logged provider .warning "Retrying translation batch"
    ([("attempt", .int made), entriesField b.entries.length] ++ Service.errorFields f)
  s.count s.retryMetric
    (labels provider b ++
      [("attempt", .int made), ("status", Service.retryStatusLabel f.status)])

/-- The failure of a batch whose attempts ended in a failure. -/
def failed (s : Service) (provider : String) (b : Batch) (f : Failure) : Run τ σ (List Result) := do
  s.count s.outcomeMetric
    (labels provider b ++ [("result", .text "error"), ("status", Service.statusLabel f.status)])
  s.logged provider .error "Translation batch failed"
    (entriesField b.entries.length :: Service.errorFields f)
  Effect.fail
    (.untranslated "Failed to translate batch after retries" f.claimsRetriable (some f))

def succeeded (s : Service) (provider : String) (b : Batch) (results : List Result) :
    Run τ σ (List Result) := do
  s.checkpoint "after-run"
  s.count s.outcomeMetric
    (labels provider b ++ [("result", .text "success"), ("status", .int 200)])
  s.logged provider .info "Translation batch completed" [entriesField results.length]
  pure (align b.entries results)

/-- Translates a batch that keeps the limits. -/
def answer (s : Service) (g : Breaker.Guard (World τ σ)) (p : Provider τ σ)
    (wait : Binary64 → Run τ σ Unit) (b : Batch) : Run τ σ (List Result) := do
  s.checkpoint "before-run"
  let attempts :=
    s.attempts g wait (fun f => .ok f.isRetriable) (onRetry s p.name b) (p.translate b)
  match ← Effect.ending attempts with
  | .ok results => succeeded s p.name b results
  | .error (.failed f) => failed s p.name b f
  | .error .cancelled => Effect.stop .cancelled

/-- Translates a batch, with the attempts made under a guard. -/
def translateBatchUnder (s : Service) (g : Breaker.Guard (World τ σ)) (p : Provider τ σ)
    (wait : Binary64 → Run τ σ Unit) (b : Batch) : Run τ σ (List Result) :=
  if b.entries.isEmpty then pure []
  else
    match b.checkLimits with
    | .error f => Effect.fail f
    | .ok () => answer s g p wait b

/-- Translates a batch. -/
def translateBatch [Clock τ] (s : Service) (p : Provider τ σ) (wait : Binary64 → Run τ σ Unit)
    (b : Batch) : Run τ σ (List Result) :=
  translateBatchUnder s s.guard p wait b

/-- Translates a batch that has yet to be checked. -/
def translate [Clock τ] (s : Service) (p : Provider τ σ) (wait : Binary64 → Run τ σ Unit)
    (request : Json) : Run τ σ (List Result) :=
  match Batch.ofJson request with
  | .error issues => Effect.fail (Schema.rejected issues)
  | .ok b => translateBatch s p wait b

end ResilientCalls.Localization
