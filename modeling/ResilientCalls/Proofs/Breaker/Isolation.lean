import ResilientCalls.Proofs.Account
import ResilientCalls.Proofs.Breaker.Registry
import ResilientCalls.Proofs.Breaker.Session

namespace ResilientCalls.Breaker

open Effect World

variable {τ σ α : Type} {key : String}

/-- A world, and a later one after something was done to one breaker. -/
structure Elsewhere (key : String) (id : Id) (w w' : World τ σ) : Prop where
  within : Registry.Within id w.registry w'.registry
  unseen : (∀ c, w.registry.cell? id = some c → c.config.key.plain ≠ key) → Unseen key w w'

variable {id : Id}

instance : Std.Refl (@Elsewhere τ σ key id) :=
  ⟨fun w => ⟨refl_of (Registry.Within id) _, fun _ => refl_of (Unseen key) w⟩⟩

instance : IsTrans (World τ σ) (Elsewhere key id) where
  trans w w' w'' h k := by
    refine ⟨trans_of (Registry.Within id) h.within k.within, fun hkey => ?_⟩
    refine trans_of (Unseen key) (h.unseen hkey) (k.unseen fun c' hc' => ?_)
    obtain ⟨c, hc, heq⟩ := h.within.config_key hc'
    rw [← heq]
    exact hkey c hc

theorem unseen_setRegistry (w : World τ σ) (r : Registry τ) :
    Unseen key w { w with registry := r } :=
  fun _ h => ⟨h.delivery, h.environment, h.sinks, h.account⟩

theorem agree_setRegistry {w v : World τ σ} (h : Agree key w v) (r q : Registry τ) :
    Agree key { w with registry := r } { v with registry := q } :=
  ⟨h.delivery, h.environment, h.sinks, h.account⟩

theorem unseen_pass (w : World τ σ) (now : τ) : Unseen key w { w with now } :=
  fun _ h => ⟨h.delivery, h.environment, h.sinks, h.account⟩

theorem elsewhere_setState (w : World τ σ) (id : Id) (s : State τ) :
    Elsewhere key id w { w with registry := w.registry.setState id s } :=
  ⟨Registry.within_setState _ _ _, fun _ => unseen_setRegistry w _⟩

theorem unseen_announce {c : Cell τ} (hc : c.config.key.plain ≠ key) (n : Notice) :
    Moves (Unseen key) (announce c n : Run τ σ Unit) := by
  have hlabels : ∀ phase : Phase, ∀ l ∈ [("key", c.config.key), ("state", .text phase.name)],
      l.1 = "key" → l.2.plain ≠ key := by simp [hc]
  have hlogged : ∀ level event fields, event ≠ "metric" →
      Moves (Unseen key) (Run.logged (c.logRecord level event fields) : Run τ σ Unit) :=
    fun _ _ _ hevent => unseen_logged (LogRecord.isOf_eq_false hevent)
  cases n with
  | moved before after =>
    exact Moves.bind (Sink.unseen_count _ (hlabels after)) fun _ => hlogged _ _ _ (by decide)
  | blocked phase ms =>
    exact Moves.bind (Sink.unseen_count _ (hlabels phase)) fun _ => hlogged _ _ _ (by decide)
  | reset => exact hlogged _ _ _ (by decide)

theorem unseen_announceAll {c : Cell τ} (hc : c.config.key.plain ≠ key) (ns : List Notice) :
    Moves (Unseen key) (announceAll c ns : Run τ σ Unit) := by
  induction ns with
  | nil => exact Moves.pure _
  | cons n rest ih => exact Moves.bind (unseen_announce hc n) fun _ => ih

theorem elsewhere_advance (id : Id) (step : State τ → Config → τ → State τ × List Notice) :
    Moves (Elsewhere key id) (advance id step : Run τ σ Unit) := by
  intro w
  cases hc : w.registry.cell? id with
  | none =>
    rw [advance_of_none hc]
    exact refl_of (Elsewhere key id) w
  | some c =>
    refine ⟨?_, fun hkey => ?_⟩
    · rw [(advance_observed hc step).registry]
      exact Registry.within_setState _ _ _
    · rw [advance_apply hc step]
      exact trans_of (Unseen key) (unseen_setRegistry w _) (unseen_announceAll (hkey c hc) _ _)

theorem elsewhere_take (id : Id) : Moves (Elsewhere key id) (take id : Run τ σ Ticket) := by
  intro w
  cases hc : w.registry.cell? id with
  | none =>
    rw [take_of_none hc]
    exact refl_of (Elsewhere key id) w
  | some c =>
    rw [take_eq hc]
    exact elsewhere_setState w id _

theorem elsewhere_release (id : Id) (t : Ticket) :
    Moves (Elsewhere key id) (release id t : Run τ σ Ticket) := by
  intro w
  cases hc : w.registry.cell? id with
  | none =>
    rw [release_of_none hc]
    exact refl_of (Elsewhere key id) w
  | some c =>
    rw [release_eq hc]
    exact elsewhere_setState w id _

/-- A breaker can only be given a configuration under the key that it has. -/
theorem elsewhere_configure {w : World τ σ} {c : Cell τ} (hc : w.registry.cell? id = some c)
    {name : String} (hname : c.config.key = .text name) (k : Config) :
    Elsewhere key id w (configure id k w).2 := by
  rw [configure_world hc k]
  split
  · next heq =>
    rw [hname] at heq
    refine ⟨Registry.within_setConfig fun c' hc' => ?_, fun _ => unseen_setRegistry w _⟩
    rw [Option.some.inj (hc'.symm.trans hc), hname, Json.eq_text_of_equals heq]
  · exact refl_of (Elsewhere key id) w

section

variable [Clock τ]

theorem elsewhere_check (id : Id) : Moves (Elsewhere key id) (check id : Run τ σ Unit) := by
  intro w
  refine ⟨?_, fun hkey => ?_⟩
  · rw [(moves_check id w).registry]
    exact refl_of (Registry.Within id) _
  · rw [check, get_bind_apply]
    cases hc : w.registry.cell? id with
    | none => exact refl_of (Unseen key) w
    | some c =>
      refine Moves.bind (Moves.ofExcept _) (fun v => ?_) w
      cases v with
      | granted => exact Moves.pure _
      | refused ms => exact Moves.bind (unseen_announce (hkey c hc) _) fun _ => Moves.fail _

theorem elsewhere_enter (id : Id) : Moves (Elsewhere key id) (enter id : Run τ σ Ticket) := by
  refine Moves.bind Moves.get fun _ => ?_
  split
  · exact Moves.pure _
  · split
    · exact Moves.pure _
    · refine Moves.bind (elsewhere_check id) fun _ => ?_
      exact Moves.bind (elsewhere_advance id _) fun _ => elsewhere_take id

namespace Session

variable {h : Session τ σ}

theorem id_perform (h : Session τ σ) (u : Use τ) : (h.perform u).id = h.id := by
  cases u with
  | enter =>
    rw [perform]
    split <;> rfl
  | release place =>
    rw [perform]
    split
    · rfl
    · split <;> rfl
  | _ => rfl

theorem world_perform_enter (h : Session τ σ) :
    (h.perform .enter).world = (Breaker.enter h.id h.world).2 := by
  rw [perform]
  split
  all_goals next heq => rw [heq]

theorem world_perform_release {place : Nat} {t : Ticket} (ht : h.tickets[place]? = some t) :
    (h.perform (.release place)).world = (Breaker.release h.id t h.world).2 := by
  rw [perform]
  simp only [ht]
  split
  all_goals next heq => rw [heq]

theorem elsewhere_perform {c : Cell τ} (hc : h.cell? = some c) {name : String}
    (hname : c.config.key = .text name) (u : Use τ) :
    Elsewhere key h.id h.world (h.perform u).world := by
  cases u with
  | check => exact elsewhere_check h.id h.world
  | enter =>
    rw [world_perform_enter]
    exact elsewhere_enter h.id h.world
  | release place =>
    cases ht : h.tickets[place]? with
    | none =>
      simp only [perform, ht]
      exact refl_of (Elsewhere key h.id) h.world
    | some t =>
      rw [world_perform_release ht]
      exact elsewhere_release h.id t h.world
  | succeed => exact elsewhere_advance h.id _ h.world
  | fail => exact elsewhere_advance h.id _ h.world
  | reset => exact elsewhere_advance h.id _ h.world
  | configure k => exact elsewhere_configure hc hname k
  | pass now => exact ⟨refl_of (Registry.Within h.id) _, fun _ => unseen_pass h.world now⟩

theorem within_perform {c : Cell τ} (hc : h.cell? = some c) {name : String}
    (hname : c.config.key = .text name) (u : Use τ) :
    Registry.Within h.id h.world.registry (h.perform u).world.registry :=
  (elsewhere_perform hc hname u : Elsewhere name h.id h.world _).within

end Session

end

/-- Worlds in which a breaker of two numbers is the same, and so is the account of a key. -/
structure Alike (key : String) (i j : Id) (w v : World τ σ) : Prop where
  now : v.now = w.now
  cell : v.registry.cell? j = w.registry.cell? i
  agree : Agree key w v

variable {i j : Id}

theorem agree_announce (c : Cell τ) (n : Notice) :
    Abreast (Agree key) (announce c n : Run τ σ Unit) (announce c n) (Agree key) := by
  cases n with
  | moved before after =>
    exact Abreast.bind (Sink.agree_count _ _) (fun _ => agree_logged _) le_rfl
  | blocked phase ms =>
    exact Abreast.bind (Sink.agree_count _ _) (fun _ => agree_logged _) le_rfl
  | reset => exact agree_logged _

theorem agree_announceAll (c : Cell τ) (ns : List Notice) :
    Abreast (Agree key) (announceAll c ns : Run τ σ Unit) (announceAll c ns) (Agree key) := by
  induction ns with
  | nil => exact Abreast.pure _
  | cons n rest ih => exact Abreast.bind (agree_announce c n) (fun _ => ih) le_rfl

theorem alike_of_agree {x y : Run τ σ α} (h : Abreast (Agree key) x y (Agree key))
    (hx : Moves Observed x) (hy : Moves Observed y) :
    Abreast (Alike key i j) x y (Alike key i j) := by
  intro w v hw
  obtain ⟨he, hagree⟩ := h w v hw.agree
  refine ⟨he, ?_, ?_, hagree⟩
  · rw [(hx w).now, (hy v).now, hw.now]
  · rw [(hx w).registry, (hy v).registry, hw.cell]

theorem alike_setState (s : State τ) :
    Abreast (Alike key i j)
      (Effect.modify fun w : World τ σ => { w with registry := w.registry.setState i s })
      (Effect.modify fun w => { w with registry := w.registry.setState j s }) (Alike key i j) := by
  refine Abreast.modify fun w v hw => ⟨hw.now, ?_, ?_⟩
  · rw [Registry.cell?_setState, Registry.cell?_setState, if_pos rfl, if_pos rfl, hw.cell]
  · exact agree_setRegistry hw.agree _ _

theorem alike_cell :
    Abreast (Alike key i j) (cell i : Run τ σ (Option (Cell τ))) (cell j) (Alike key i j) :=
  fun _ _ hw => ⟨congrArg Except.ok hw.cell.symm, hw⟩

theorem alike_advance (step : State τ → Config → τ → State τ × List Notice) :
    Abreast (Alike key i j) (advance i step : Run τ σ Unit) (advance j step) (Alike key i j) := by
  refine Abreast.get_bind fun w v hw => ?_
  rw [hw.cell, hw.now]
  cases w.registry.cell? i with
  | none => exact Abreast.pure _
  | some c =>
    refine Abreast.bind (alike_setState _) (fun _ => ?_) le_rfl
    exact alike_of_agree (agree_announceAll c _) (moves_announceAll c _) (moves_announceAll c _)

theorem alike_take :
    Abreast (Alike key i j) (take i : Run τ σ Ticket) (take j) (Alike key i j) := by
  refine Abreast.bind alike_cell (fun found => ?_) le_rfl
  cases found with
  | none => exact Abreast.pure _
  | some c => exact Abreast.bind (alike_setState _) (fun _ => Abreast.pure _) le_rfl

theorem alike_release (t : Ticket) :
    Abreast (Alike key i j) (release i t : Run τ σ Ticket) (release j t) (Alike key i j) := by
  refine Abreast.bind alike_cell (fun found => ?_) le_rfl
  cases found with
  | none => exact Abreast.pure _
  | some c => exact Abreast.bind (alike_setState _) (fun _ => Abreast.pure _) le_rfl

theorem alike_configure (k : Config) :
    Abreast (Alike key i j) (configure i k : Run τ σ Unit) (configure j k) (Alike key i j) := by
  refine Abreast.bind alike_cell (fun found => ?_) le_rfl
  cases found with
  | none => exact Abreast.pure _
  | some c =>
    dsimp only
    split
    · exact Abreast.fail _
    · refine Abreast.modify fun w v hw => ⟨hw.now, ?_, ?_⟩
      · rw [Registry.cell?_setConfig, Registry.cell?_setConfig, if_pos rfl, if_pos rfl, hw.cell]
      · exact agree_setRegistry hw.agree _ _

variable [Clock τ]

theorem alike_check :
    Abreast (Alike key i j) (check i : Run τ σ Unit) (check j) (Alike key i j) := by
  refine Abreast.get_bind fun w v hw => ?_
  rw [hw.cell, hw.now]
  cases w.registry.cell? i with
  | none => exact Abreast.pure _
  | some c =>
    refine Abreast.bind (Abreast.ofExcept _) (fun verdict => ?_) le_rfl
    cases verdict with
    | granted => exact Abreast.pure _
    | refused ms =>
      refine Abreast.bind ?_ (fun _ => Abreast.fail _) le_rfl
      exact alike_of_agree (agree_announce c _) (moves_announce c _) (moves_announce c _)

theorem alike_enter :
    Abreast (Alike key i j) (enter i : Run τ σ Ticket) (enter j) (Alike key i j) := by
  refine Abreast.bind alike_cell (fun found => ?_) le_rfl
  cases found with
  | none => exact Abreast.pure _
  | some c =>
    dsimp only
    split
    · exact Abreast.pure _
    · refine Abreast.bind alike_check (fun _ => ?_) le_rfl
      exact Abreast.bind (alike_advance _) (fun _ => alike_take) le_rfl

end ResilientCalls.Breaker
