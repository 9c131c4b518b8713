import ResilientCalls.Service
import ResilientCalls.Settings.Environment

namespace ResilientCalls

variable {τ σ : Type}

namespace Service

def configuredEvent : Task → String
  | .summarizing => "Summarizer service configured"
  | .translating => "Translation service configured"

/-- A service built from settings, with the adapter that reaches its provider. -/
structure Configured where
  service : Service
  adapter : Provider.Adapter
  sink : Sink

/-- Builds a service from settings; its sink is the one given, or the one that is set. -/
def ofSettings (task : Task) (settings : Settings) (sink : Option Sink) :
    Run τ σ Configured := do
  let sink ← match sink with
    | some s => pure s
    | none => Sink.ofName (.text settings.metricsBackend) (.text settings.metricsNamespace)
  let adapter ← Effect.ofExcept settings.connection.adapter
  Run.logged ⟨.info, configuredEvent task,
    [("provider", .text adapter.name), ("model", adapter.model),
      ("breaker_enabled", .bool settings.breaker.enabled)]⟩
  let policy ← Effect.ofExcept
    ((Retry.Policy.preset task.name).revise (some (.whole settings.retryAttempts.val)) none none)
  let config ← Effect.ofExcept (settings.breaker.forKey (.text (key task adapter.name)))
  let service ←
    make task adapter.name (some config) policy (.make settings.faultFlags true) (some sink)
  return { service, adapter, sink }

/-- Builds a service from environment settings. -/
def ofEnvironment (task : Task) (env : Settings.Environment) (overrides : List (String × Json))
    (sink : Option Sink) : Run τ σ Configured := do
  ofSettings task (← Effect.ofExcept (Settings.ofEnvironment env overrides)) sink

end Service

end ResilientCalls
