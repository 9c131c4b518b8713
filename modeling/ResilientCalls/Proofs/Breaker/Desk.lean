import Mathlib.Logic.Function.Basic
import ResilientCalls.Proofs.Breaker.Isolation

namespace ResilientCalls.Breaker

open Effect World

variable {τ σ : Type}

/-- A configuration whose key is a name. -/
structure Named where
  name : String
  config : Config
  key_eq : config.key = .text name

/-- What a registry is asked for, or the use of a breaker that it gave out. -/
inductive Order (τ : Type) where
  | get (n : Named)
  | reset (name : String)
  | state (name : String)
  | snapshot
  | use (name : String) (u : Use τ)

/-- An order, with what the clock shows when it is carried out. -/
structure Step (τ : Type) where
  now : τ
  order : Order τ

/-- What comes of an order. -/
inductive Reply (τ : Type) where
  | got (id : Id)
  | done
  | given (ticket : Ticket)
  | state (s : Option (State τ))
  | statuses (cells : List (Json × Cell τ))
  /-- There is no such breaker or ticket to be used. -/
  | nothing

/-- A registry, with what it gave out. -/
structure Desk (τ σ : Type) where
  world : World τ σ
  /-- The breaker that was given out for a name. -/
  held : String → Option Id
  /-- The tickets of the breaker of a name. -/
  tickets : String → List Ticket

namespace Desk

/-- A desk whose registry lists these names and that holds the breakers that it lists. -/
structure Sound (d : Desk τ σ) (names : List String) : Prop where
  lists : d.world.registry.Lists names
  held : ∀ name, d.held name = d.world.registry.find? (.text name)

variable {d : Desk τ σ} {names : List String} {name : String} {id : Id}

theorem Sound.cell (h : d.Sound names) (hid : d.held name = some id) :
    ∃ c, d.world.registry.cell? id = some c ∧ c.config.key = .text name := by
  rw [h.held] at hid
  obtain ⟨c, hc, -, hkey⟩ := h.lists.cell?_of_find? hid
  exact ⟨c, hc, hkey⟩

theorem Sound.held_eq_none (h : d.Sound names) : d.held name = none ↔ name ∉ names := by
  rw [h.held]
  refine ⟨fun hnone hmem => ?_, h.lists.find?_eq_none⟩
  obtain ⟨i, hi⟩ := List.getElem?_of_mem hmem
  cases hnone.symm.trans (h.lists.find?_eq hi)

theorem Sound.eq_of_held (h : d.Sound names) {other : String} (hid : d.held name = some id)
    (hother : d.held other = some id) : name = other := by
  rw [h.held, h.lists.find?_eq_some_iff] at hid hother
  exact Option.some.inj (hid.symm.trans hother)

theorem Sound.within_adopt (h : d.Sound names) {n : Named} (hid : d.held n.name = some id) :
    Registry.Within id d.world.registry (d.world.registry.setConfig id n.config) := by
  refine Registry.within_setConfig fun c hc => ?_
  obtain ⟨c', hc', hkey⟩ := h.cell hid
  rw [Option.some.inj (hc.symm.trans hc'), hkey, n.key_eq]

/-- The breaker of a name is the one that was given out. -/
theorem Sound.named? (h : d.Sound names) (name : String) :
    d.world.registry.named? name = (d.held name).bind d.world.registry.cell? := by
  rw [Registry.named?, h.held]

end Desk

variable [Clock τ]

/-- What comes of a use. -/
def Session.answer (h : Session τ σ) : Use τ → Except Stop (Reply τ)
  | .check => (Breaker.check h.id h.world).1.map fun _ => .done
  | .enter => (Breaker.enter h.id h.world).1.map .given
  | .release place =>
    match h.tickets[place]? with
    | none => .ok .nothing
    | some t => (Breaker.release h.id t h.world).1.map fun _ => .done
  | .succeed => (recordSuccess h.id h.world).1.map fun _ => .done
  | .fail => (recordFailure h.id h.world).1.map fun _ => .done
  | .reset => (Breaker.reset h.id h.world).1.map fun _ => .done
  | .configure config => (Breaker.configure h.id config h.world).1.map fun _ => .done
  | .pass _ => .ok .done

namespace Desk

/-- A desk with an empty registry. -/
def opened (w : World τ σ) : Desk τ σ where
  world := { w with registry := .empty }
  held _ := none
  tickets _ := []

/-- The desk when the clock shows something else. -/
def when (d : Desk τ σ) (now : τ) : Desk τ σ := { d with world := { d.world with now } }

/-- What has been going on with the breaker of a name. -/
def session (d : Desk τ σ) (name : String) (id : Id) : Session τ σ :=
  ⟨id, d.world, d.tickets name⟩

/-- Uses the breaker of a name. -/
def use (d : Desk τ σ) (name : String) (id : Id) (u : Use τ) :
    Except Stop (Reply τ) × Desk τ σ :=
  let h := (d.session name id).perform u
  ((d.session name id).answer u,
    { d with world := h.world, tickets := Function.update d.tickets name h.tickets })

def carryOut (d : Desk τ σ) : Order τ → Except Stop (Reply τ) × Desk τ σ
  | .get n =>
    match enroll n.config d.world with
    | (.ok (id, _), w) =>
      (.ok (.got id), { d with world := w, held := Function.update d.held n.name (some id) })
    | (.error e, w) => (.error e, { d with world := w })
  | .reset name =>
    ((resetKey (.text name) d.world).1.map fun _ => .done,
      { d with world := (resetKey (.text name) d.world).2 })
  | .state name =>
    ((lookUp (.text name) d.world).1.map fun id =>
      .state ((id.bind d.world.registry.cell?).map (·.state)), d)
  | .snapshot => (.ok (.statuses d.world.registry.snapshot), d)
  | .use name u =>
    match d.held name with
    | none => (.ok .nothing, d)
    | some id => d.use name id u

def perform (d : Desk τ σ) (s : Step τ) : Except Stop (Reply τ) × Desk τ σ :=
  (d.when s.now).carryOut s.order

def after (d : Desk τ σ) (steps : List (Step τ)) : Desk τ σ :=
  steps.foldl (fun d s => (d.perform s).2) d

/-- Steps with their replies. -/
def transcript (d : Desk τ σ) : List (Step τ) → List (Step τ × Except Stop (Reply τ))
  | [] => []
  | s :: rest => (s, (d.perform s).1) :: (d.perform s).2.transcript rest

variable {d : Desk τ σ} {names : List String} {name : String} {id : Id} {n : Named}

theorem Sound.get_held (h : d.Sound names) (hid : d.held n.name = some id) :
    d.carryOut (.get n) = (.ok (.got id), { d with world := { d.world with
      registry := d.world.registry.setConfig id n.config } }) := by
  obtain ⟨c, hc, hkey⟩ := h.cell hid
  have henroll := enroll_of_find? n.key_eq ((h.held _).symm.trans hid) hc hkey
  have hheld : Function.update d.held n.name (some id) = d.held := by
    rw [← hid, Function.update_eq_self]
  rw [carryOut, henroll]
  dsimp only
  rw [hheld]

theorem Sound.get_new (h : d.Sound names) (hnone : d.held n.name = none) :
    d.carryOut (.get n) = (.ok (.got (d.world.registry.add n.config).2),
      { d with
        world := { d.world with registry := (d.world.registry.add n.config).1 }.addLog
          (madeRecord n.config)
        held := Function.update d.held n.name (some (d.world.registry.add n.config).2) }) := by
  rw [carryOut, enroll_of_none n.key_eq ((h.held _).symm.trans hnone)]

theorem Sound.reset_held (h : d.Sound names) (hid : d.held name = some id) :
    d.carryOut (.reset name) = d.use name id .reset := by
  rw [carryOut, resetKey_text, ← h.held, hid]
  dsimp only [use, Session.perform, Session.answer, session]
  rw [Function.update_eq_self]

theorem Sound.reset_none (h : d.Sound names) (hnone : d.held name = none) :
    d.carryOut (.reset name) = (.ok .done, d) := by
  rw [carryOut, resetKey_text, ← h.held, hnone]
  rfl

theorem carryOut_use_held (hid : d.held name = some id) (u : Use τ) :
    d.carryOut (.use name u) = d.use name id u := by
  rw [carryOut, hid]

theorem carryOut_use_none (hnone : d.held name = none) (u : Use τ) :
    d.carryOut (.use name u) = (.ok .nothing, d) := by
  rw [carryOut, hnone]

/-- All that an order can do to a desk. -/
inductive Turn (d : Desk τ σ) (names : List String) :
    Order τ → Except Stop (Reply τ) → Desk τ σ → List String → Prop where
  | adopted (n : Named) (id : Id) : d.held n.name = some id →
      Turn d names (.get n) (.ok (.got id))
        { d with world :=
            { d.world with registry := d.world.registry.setConfig id n.config } } names
  | made (n : Named) : n.name ∉ names →
      Turn d names (.get n) (.ok (.got (d.world.registry.add n.config).2))
        { d with
          world := { d.world with registry := (d.world.registry.add n.config).1 }.addLog
            (madeRecord n.config)
          held := Function.update d.held n.name (some (d.world.registry.add n.config).2) }
        (names ++ [n.name])
  | idle (o : Order τ) (r : Except Stop (Reply τ)) : (∀ n, o ≠ .get n) →
      (∀ name u, o = .use name u → d.held name = none) → Turn d names o r d names
  | used (name : String) (id : Id) (u : Use τ) : d.held name = some id →
      Turn d names (.use name u) (d.use name id u).1 (d.use name id u).2 names
  | reset (name : String) (id : Id) : d.held name = some id →
      Turn d names (.reset name) (d.use name id .reset).1 (d.use name id .reset).2 names

theorem Sound.turn (h : d.Sound names) (o : Order τ) :
    ∃ names', Turn d names o (d.carryOut o).1 (d.carryOut o).2 names' := by
  cases o with
  | get n =>
    cases hid : d.held n.name with
    | none =>
      rw [h.get_new hid]
      exact ⟨_, .made n (h.held_eq_none.1 hid)⟩
    | some id =>
      rw [h.get_held hid]
      exact ⟨_, .adopted n id hid⟩
  | reset name =>
    cases hid : d.held name with
    | none =>
      rw [h.reset_none hid]
      exact ⟨_, .idle _ _ (by simp) (by simp)⟩
    | some id =>
      rw [h.reset_held hid]
      exact ⟨_, .reset name id hid⟩
  | state name => exact ⟨_, .idle _ _ (by simp) (by simp)⟩
  | snapshot => exact ⟨_, .idle _ _ (by simp) (by simp)⟩
  | use name u =>
    cases hid : d.held name with
    | none =>
      rw [carryOut_use_none hid]
      refine ⟨_, .idle _ _ (by simp) fun name' u' h => ?_⟩
      obtain ⟨rfl, -⟩ := Order.use.inj h
      exact hid
    | some id =>
      rw [carryOut_use_held hid]
      exact ⟨_, .used name id u hid⟩

namespace Turn

variable {o : Order τ} {r : Except Stop (Reply τ)} {d' : Desk τ σ} {names' : List String}

theorem within_use (h : d.Sound names) (hid : d.held name = some id) (u : Use τ) :
    Registry.Within id d.world.registry (d.use name id u).2.world.registry := by
  obtain ⟨c, hc, hkey⟩ := h.cell hid
  exact Session.within_perform (h := d.session name id) hc hkey u

theorem sound_use (h : d.Sound names) (hid : d.held name = some id) (u : Use τ) :
    (d.use name id u).2.Sound names := by
  have hwithin := within_use h hid u
  exact ⟨hwithin.lists h.lists, fun other => (h.held other).trans (hwithin.find? _).symm⟩

theorem sound (h : d.Sound names) (t : Turn d names o r d' names') : d'.Sound names' := by
  cases t with
  | adopted n id hid => exact ⟨(h.within_adopt hid).lists h.lists, h.held⟩
  | made n hn =>
    refine ⟨h.lists.add n.key_eq hn, fun name => ?_⟩
    show Function.update d.held n.name _ name = (d.world.registry.add n.config).1.find? _
    by_cases hname : name = n.name
    · rw [hname, Function.update_self, h.lists.find?_add_self n.key_eq hn]
    · rw [Function.update_of_ne hname, h.lists.find?_add_other n.key_eq hn hname, h.held]
  | idle o r _ _ => exact h
  | used name id u hid => exact sound_use h hid u
  | reset name id hid => exact sound_use h hid .reset

theorem held (h : d.Sound names) (t : Turn d names o r d' names') (hid : d.held name = some id) :
    d'.held name = some id := by
  cases t with
  | made n hn =>
    have hne : name ≠ n.name := by
      rintro rfl
      cases hid.symm.trans (h.held_eq_none.2 hn)
    exact (Function.update_of_ne hne _ _).trans hid
  | adopted n id' hid' => exact hid
  | idle o r _ _ => exact hid
  | used name' id' u hid' => exact hid
  | reset name' id' hid' => exact hid

end Turn

end Desk

end ResilientCalls.Breaker
