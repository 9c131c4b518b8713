import ResilientCalls.Proofs.Breaker.Desk

namespace ResilientCalls.Breaker

open Effect World

variable {τ σ : Type}

/-- The name that an order asks for a breaker by. -/
def Order.asked? : Order τ → Option String
  | .get n => some n.name
  | _ => none

/-- The configuration that an order gives the breaker of a name. -/
def Order.given? (name : String) : Order τ → Option Config
  | .get n => if n.name = name then some n.config else none
  | .use other (.configure k) =>
    if other = name ∧ k.key.equals (.text name) = true then some k else none
  | _ => none

/-- The names that were asked for, in the order in which they first were. -/
def asked (steps : List (Step τ)) : List String :=
  (steps.filterMap (·.order.asked?)).eraseDups

/-- The last configuration that was given to the breaker of a name. -/
def latest? (name : String) (steps : List (Step τ)) : Option Config :=
  (steps.filterMap (·.order.given? name)).getLast?

theorem eraseDups_concat (l : List String) (a : String) :
    (l ++ [a]).eraseDups = if a ∈ l then l.eraseDups else l.eraseDups ++ [a] := by
  rw [List.eraseDups_append]
  by_cases ha : a ∈ l
  · simp [List.removeAll, ha]
  · simp [List.removeAll, ha, List.eraseDups_cons]

theorem asked_concat (steps : List (Step τ)) (s : Step τ) :
    asked (steps ++ [s]) = match s.order.asked? with
      | some name => if name ∈ asked steps then asked steps else asked steps ++ [name]
      | none => asked steps := by
  unfold asked
  rw [List.filterMap_append]
  cases hname : s.order.asked? with
  | none => simp [hname]
  | some name => simp [hname, eraseDups_concat]

theorem latest?_concat (name : String) (steps : List (Step τ)) (s : Step τ) :
    latest? name (steps ++ [s]) = (s.order.given? name).or (latest? name steps) := by
  unfold latest?
  rw [List.filterMap_append]
  cases hk : s.order.given? name with
  | none => simp [hk]
  | some k => simp [hk]

variable [Clock τ]

namespace Desk

variable {d d' : Desk τ σ} {names names' : List String} {name : String} {id : Id} {o : Order τ}
  {r : Except Stop (Reply τ)}

theorem config_use (h : d.Sound names) {other : String} {id' : Id}
    (hid' : d.held other = some id') (u : Use τ) (hid : d.held name = some id) {c' : Cell τ}
    (hc' : (d.use other id' u).2.world.registry.cell? id = some c') :
    (Order.use other u).given? name = some c'.config ∨
      (Order.use other u).given? name = none ∧ ∃ c, d.world.registry.cell? id = some c ∧
        c'.config = c.config := by
  by_cases hname : other = name
  · subst hname
    obtain rfl : id' = id := Option.some.inj (hid'.symm.trans hid)
    obtain ⟨c, hc, hkey⟩ := h.cell hid
    obtain ⟨c₁, hc₁, t⟩ := Session.turn_of_perform (h := d.session other id') hc u
    rw [Session.cell?, Session.id_perform] at hc₁
    have hsame : (d.use other id' u).2.world.registry.cell? id' = some c₁ := hc₁
    obtain rfl : c₁ = c' := Option.some.inj (hsame.symm.trans hc')
    rcases t.config_eq with ⟨k, rfl, hk, hconfig⟩ | ⟨hk, hconfig⟩
    · rw [hkey] at hk
      exact Or.inl (by simp [Order.given?, hk, hconfig])
    · refine Or.inr ⟨?_, c, hc, hconfig⟩
      rw [hkey] at hk
      cases u with
      | configure k => simp [Order.given?, hk k rfl]
      | _ => rfl
  · have hne : id ≠ id' := by
      rintro rfl
      exact hname (h.eq_of_held hid' hid)
    refine Or.inr ⟨?_, c', ?_, rfl⟩
    · cases u <;> simp [Order.given?, hname]
    · rw [← (Turn.within_use h hid' u).others id hne]
      exact hc'

/-- A breaker has the configuration that an order gave it, or the one that it had. -/
theorem Turn.config (h : d.Sound names) (t : Turn d names o r d' names')
    (hid : d'.held name = some id) {c' : Cell τ} (hc' : d'.world.registry.cell? id = some c') :
    o.given? name = some c'.config ∨ o.given? name = none ∧ ∃ c, d.held name = some id ∧
      d.world.registry.cell? id = some c ∧ c'.config = c.config := by
  cases t with
  | adopted n id' hid' =>
    have hset : (d.world.registry.setConfig id' n.config).cell? id = some c' := hc'
    have hheld : d.held name = some id := hid
    by_cases hname : n.name = name
    · rw [hname] at hid'
      obtain rfl : id' = id := Option.some.inj (hid'.symm.trans hheld)
      obtain ⟨c, hc, -⟩ := h.cell hheld
      rw [Registry.cell?_setConfig_self hc] at hset
      exact Or.inl (by simp [Order.given?, hname, ← Option.some.inj hset])
    · have hne : ¬ id' = id := by
        rintro rfl
        exact hname (h.eq_of_held hid' hheld)
      rw [Registry.cell?_setConfig, if_neg hne] at hset
      exact Or.inr ⟨by simp [Order.given?, hname], c', hheld, hset, rfl⟩
  | made n hn =>
    have hadd : (d.world.registry.add n.config).1.cell? id = some c' := hc'
    have hheld : Function.update d.held n.name (some (d.world.registry.add n.config).2) name =
        some id := hid
    by_cases hname : n.name = name
    · rw [hname, Function.update_self] at hheld
      rw [← Option.some.inj hheld, Registry.cell?_add_self] at hadd
      exact Or.inl (by simp [Order.given?, hname, ← Option.some.inj hadd])
    · rw [Function.update_of_ne (Ne.symm hname)] at hheld
      obtain ⟨c, hc, -⟩ := h.cell hheld
      rw [Registry.cell?_add_of_some hc] at hadd
      exact Or.inr ⟨by simp [Order.given?, hname], c, hheld, hc, by rw [Option.some.inj hadd]⟩
  | idle o r hget huse =>
    refine Or.inr ⟨?_, c', hid, hc', rfl⟩
    cases o with
    | get n => exact absurd rfl (hget n)
    | use other u =>
      have hne : ¬ other = name := by
        rintro rfl
        cases (huse other u rfl).symm.trans hid
      cases u <;> simp [Order.given?, hne]
    | _ => rfl
  | used other id' u hid' =>
    rcases config_use h hid' u hid hc' with hk | ⟨hk, c, hc, hconfig⟩
    · exact Or.inl hk
    · exact Or.inr ⟨hk, c, hid, hc, hconfig⟩
  | reset other id' hid' =>
    rcases config_use h hid' .reset hid hc' with hk | ⟨hk, c, hc, hconfig⟩
    · cases hk
    · exact Or.inr ⟨rfl, c, hid, hc, hconfig⟩

theorem Turn.names_eq (h : d.Sound names) (t : Turn d names o r d' names') :
    names' = match o.asked? with
      | some name => if name ∈ names then names else names ++ [name]
      | none => names := by
  cases t with
  | adopted n id hid =>
    have hmem : n.name ∈ names := by
      by_contra hn
      cases hid.symm.trans (h.held_eq_none.2 hn)
    simp [Order.asked?, hmem]
  | made n hn => simp [Order.asked?, hn]
  | idle o r hget huse =>
    cases o with
    | get n => exact absurd rfl (hget n)
    | _ => rfl
  | used other id u hid => rfl
  | reset other id hid => rfl

/-- Who asks for a name is given the breaker that is then held for it. -/
theorem Turn.got {n : Named} (t : Turn d names o r d' names') (ho : o = .get n) :
    ∃ id, r = .ok (.got id) ∧ d'.held n.name = some id := by
  subst ho
  cases t with
  | adopted n id hid => exact ⟨id, rfl, hid⟩
  | made n hn => exact ⟨_, rfl, Function.update_self ..⟩
  | idle o r hget huse => exact absurd rfl (hget n)

theorem after_concat (d : Desk τ σ) (steps : List (Step τ)) (s : Step τ) :
    d.after (steps ++ [s]) = ((d.after steps).perform s).2 := List.foldl_append

theorem transcript_concat (d : Desk τ σ) (steps : List (Step τ)) (s : Step τ) :
    d.transcript (steps ++ [s]) = d.transcript steps ++ [(s, ((d.after steps).perform s).1)] := by
  induction steps generalizing d with
  | nil => rfl
  | cons first rest ih => exact congrArg _ (ih (d.perform first).2)

/-- What is known of the breakers that were given out in some steps. -/
structure Shared (w : World τ σ) (steps : List (Step τ)) : Prop where
  sound : ((opened w).after steps).Sound (asked steps)
  same : ∀ p ∈ (opened w).transcript steps, ∀ n, p.1.order = .get n →
    ∃ id, p.2 = .ok (.got id) ∧ ((opened w).after steps).held n.name = some id
  latest : ∀ name id c, ((opened w).after steps).held name = some id →
    ((opened w).after steps).world.registry.cell? id = some c →
    latest? name steps = some c.config

theorem shared_concat {w : World τ σ} {steps : List (Step τ)} (h : Shared w steps) (s : Step τ) :
    Shared w (steps ++ [s]) := by
  have hsound : (((opened w).after steps).when s.now).Sound (asked steps) :=
    ⟨h.sound.lists, h.sound.held⟩
  obtain ⟨names', t⟩ := hsound.turn s.order
  have hnames : names' = asked (steps ++ [s]) := by
    rw [asked_concat, t.names_eq hsound]
  rw [hnames] at t
  refine ⟨?_, ?_, ?_⟩
  · rw [after_concat]
    exact t.sound hsound
  · intro p hp n hn
    rw [after_concat]
    rw [transcript_concat, List.mem_append, List.mem_singleton] at hp
    rcases hp with hp | rfl
    · obtain ⟨id, hreply, hid⟩ := h.same p hp n hn
      exact ⟨id, hreply, t.held hsound hid⟩
    · exact t.got hn
  · intro name id c hid hc
    rw [after_concat] at hid hc
    rw [latest?_concat]
    rcases t.config hsound hid hc with hk | ⟨hk, c₀, hid₀, hc₀, hconfig⟩
    · rw [hk]
      rfl
    · rw [hk, hconfig]
      exact h.latest name id c₀ hid₀ hc₀

theorem shared (w : World τ σ) (steps : List (Step τ)) : Shared w steps := by
  -- on the last step, since what was asked for and given is told of all the steps before it
  induction steps using List.reverseRecOn with
  | nil =>
    refine ⟨⟨Registry.lists_empty, fun _ => rfl⟩, fun p hp => ?_, fun name id c hid => ?_⟩
    · cases hp
    · cases hid
  | append_singleton steps s ih => exact shared_concat ih s

end Desk

end ResilientCalls.Breaker
