import ResilientCalls.Proofs.Breaker.Registry
import ResilientCalls.Proofs.Number
import ResilientCalls.Proofs.Observation
import ResilientCalls.Service.Setup

namespace ResilientCalls

variable {τ σ : Type}

namespace Breaker

namespace Registry

variable {r r' : Registry τ} {names : List String} {name other : String} {id : Id} {k : Config}

/-- Each name leads to a breaker whose configuration has it as its key. -/
def Keyed (r : Registry τ) : Prop :=
  ∀ name id, r.find? (.text name) = some id →
    ∃ c, r.cell? id = some c ∧ c.config.key = .text name

theorem Keyed.within (hr : r.Keyed) (h : Within id r r') : r'.Keyed := by
  intro name i hi
  rw [h.find?] at hi
  obtain ⟨c, hc, hkey⟩ := hr name i hi
  have hmap : (r'.cells.map (·.config.key))[i]? = some (.text name) := by
    rw [h.configs, List.getElem?_map]
    exact (congrArg (Option.map _) hc).trans (congrArg some hkey)
  rw [List.getElem?_map] at hmap
  exact Option.map_eq_some_iff.1 hmap

theorem find?_add (r : Registry τ) (hk : k.key = .text name) (other : String) :
    (r.add k).1.find? (.text other) =
      (r.find? (.text other)).or (if name = other then some r.cells.length else none) := by
  rw [find?, find?, add, List.find?_append, Option.map_or, hk]
  congr 1
  rw [List.find?_singleton, Json.isSame_text]
  by_cases h : name = other <;> simp [h]

theorem Keyed.add (hr : r.Keyed) (hk : k.key = .text name) : (r.add k).1.Keyed := by
  intro other id hid
  rw [find?_add r hk, Option.or_eq_some_iff] at hid
  rcases hid with hid | ⟨-, hid⟩
  · obtain ⟨c, hc, hkey⟩ := hr other id hid
    exact ⟨c, cell?_add_of_some hc k, hkey⟩
  · split at hid
    · next heq =>
      obtain rfl := Option.some.inj hid
      exact ⟨_, cell?_add_self r k, hk.trans (congrArg Json.text heq)⟩
    · cases hid

end Registry

end Breaker

/-- A breaker's configuration that says what settings do. -/
structure BreakerSettings.Configures (s : BreakerSettings) (key : String) (c : Breaker.Config) :
    Prop where
  key : c.key = .text key
  enabled : c.enabled = .bool s.enabled
  threshold : c.threshold = .whole s.threshold.val
  recoveryMs : c.recoveryMs = .whole s.recoveryMs.val
  probes : c.probes = .whole s.probes.val

theorem BreakerSettings.forKey_text (s : BreakerSettings) {key : String} (h : key ≠ "") :
    ∃ c, s.forKey (.text key) = .ok c ∧ s.Configures key c := by
  have hk : (Json.text key).holds = true := by
    simpa [Json.holds] using h
  have ht := Number.isBelow_one s.threshold.property
  have hr := Number.isBelow_zero s.recoveryMs.property
  have hp := Number.isBelow_one s.probes.property
  refine ⟨⟨.text key, .bool s.enabled, .whole s.threshold.val, .whole s.recoveryMs.val,
    .whole s.probes.val, hk, ht, hr, hp⟩, ?_, rfl, rfl, rfl, rfl, rfl⟩
  rw [forKey, Breaker.Config.make, dif_pos hk, dif_pos ht, dif_pos hr, dif_pos hp]

/-- A policy that makes so many attempts and waits as another one does. -/
structure Retry.Policy.Allows (p : Policy) (attempts : Int) (q : Policy) : Prop where
  attempts : q.attempts = .whole attempts
  initialDelayMs : q.initialDelayMs = p.initialDelayMs
  backoffFactor : q.backoffFactor = p.backoffFactor

theorem Retry.Policy.revise_preset (name : String) (n : Schema.IntFrom 1) :
    ∃ q, (preset name).revise (some (.whole n.val)) none none = .ok q ∧
      (preset name).Allows n.val q := by
  have hn := Number.isBelow_one n.property
  have hdelay : ¬ (preset name).initialDelayMs < 0 := by
    unfold preset
    split <;> decide
  have hfactor : ¬ (preset name).backoffFactor < 1 := by
    unfold preset
    split <;> decide
  refine ⟨⟨.whole n.val, (preset name).initialDelayMs, (preset name).backoffFactor, hn⟩, ?_,
    rfl, rfl, rfl⟩
  rw [revise, make, Option.getD_some, Option.getD_none, Option.getD_none, dif_pos hn,
    if_neg hdelay, if_neg hfactor]

open Effect World

/-- In this world, a computation makes a sink. -/
def Sink.Makes (w : World τ σ) (x : Run τ σ Sink) : Prop := ∃ b, x w = make b w

theorem Sink.makes_ofName (name space : String) (w : World τ σ) :
    Makes w (ofName (.text name) (.text space)) := by
  have hset : ∀ v, Run.setting? v w = (.ok (Json.get? v w.environment), w) := fun _ => rfl
  have hspace : ∃ n, namespaceOr (.text space) w = (.ok n, w) := by
    unfold namespaceOr
    split
    · exact ⟨_, rfl⟩
    · exact ⟨_, bind_of_ok (hset _) _⟩
  obtain ⟨n, hn⟩ := hspace
  unfold ofName
  extract_lets named
  have hnamed : ∀ text, Makes w (named text) := by
    intro text
    unfold named
    split
    · exact ⟨_, rfl⟩
    · exact ⟨_, bind_of_ok hn _⟩
    · exact ⟨_, rfl⟩
  split
  · exact hnamed name
  · obtain ⟨b, hb⟩ := hnamed ((Json.get? "METRICS_BACKEND" w.environment).getD "log")
    exact ⟨b, (bind_of_ok (hset _) _).trans hb⟩

theorem Settings.family?_connection (s : Settings) :
    s.connection.family? = some s.provider := by
  cases hp : s.provider <;> simp [connection, Connection.family?, hp, Provider.Family.name]

theorem Settings.adapter_of_requireKey {s : Settings} (h : s.requireKey = .ok ()) :
    ∃ a, s.connection.adapter = .ok a ∧ a.family = s.provider := by
  rw [Connection.adapter, family?_connection]
  unfold requireKey at h
  cases hp : s.provider
  all_goals
    rw [hp] at h
    dsimp only at h ⊢
    split at h
    · next hkey =>
      rw [if_pos hkey]
      exact ⟨_, rfl, rfl⟩
    · cases h

/-- Everything that is built from settings can be built. -/
structure Settings.Suffices (τ σ : Type) (s : Settings) : Prop where
  adapter : ∃ a, s.connection.adapter = .ok a ∧ a.family = s.provider
  breaker : ∀ key : String, key ≠ "" →
    ∃ c, s.breaker.forKey (.text key) = .ok c ∧ s.breaker.Configures key c
  policy : ∀ name, ∃ q,
    (Retry.Policy.preset name).revise (some (.whole s.retryAttempts.val)) none none = .ok q ∧
      (Retry.Policy.preset name).Allows s.retryAttempts.val q
  sink : ∀ w : World τ σ,
    Sink.Makes w (Sink.ofName (.text s.metricsBackend) (.text s.metricsNamespace))

theorem Settings.suffices {s : Settings} (h : s.requireKey = .ok ()) : s.Suffices τ σ :=
  ⟨adapter_of_requireKey h, fun _ => s.breaker.forKey_text,
    fun name => Retry.Policy.revise_preset name _, fun w => Sink.makes_ofName _ _ w⟩

namespace Service

end Service

end ResilientCalls
