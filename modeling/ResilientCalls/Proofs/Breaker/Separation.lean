import ResilientCalls.Proofs.Breaker.Sharing

namespace ResilientCalls.Breaker

open Effect World

variable {τ σ : Type} {name : String}

/-- Does an order concern a name? A snapshot concerns all of them. -/
def Order.concerns (name : String) : Order τ → Bool
  | .get n => n.name = name
  | .reset other | .state other | .use other _ => other = name
  | .snapshot => true

/-- What a reply tells of a name. The number of a breaker tells only how many others there are. -/
def Reply.under (name : String) : Reply τ → Reply τ
  | .got _ => .got 0
  | .statuses cells => .statuses (cells.find? fun p => p.1.isSame (.text name)).toList
  | r => r

/-- The steps that concern a name. -/
def own (name : String) (steps : List (Step τ)) : List (Step τ) :=
  steps.filter (·.order.concerns name)

/-- What is heard of a name. -/
def heard (name : String) (p : Step τ × Except Stop (Reply τ)) :
    Option (Step τ × Except Stop (Reply τ)) :=
  if p.1.order.concerns name then some (p.1, p.2.map (·.under name)) else none

namespace Session

variable [Clock τ] {h g : Session τ σ}

theorem tickets_perform_enter (h : Session τ σ) : (h.perform .enter).tickets =
    match (Breaker.enter h.id h.world).1 with
    | .ok t => h.tickets ++ [t]
    | .error _ => h.tickets := by
  rw [perform]
  split
  all_goals next heq => rw [heq]

theorem tickets_perform_release {place : Nat} {t : Ticket} (ht : h.tickets[place]? = some t) :
    (h.perform (.release place)).tickets =
      match (Breaker.release h.id t h.world).1 with
      | .ok t => h.tickets.set place t
      | .error _ => h.tickets := by
  rw [perform]
  simp only [ht]
  split
  all_goals next heq => rw [heq]

theorem alike_perform (ht : g.tickets = h.tickets) (hw : Alike name h.id g.id h.world g.world)
    (u : Use τ) : g.answer u = h.answer u ∧ (g.perform u).tickets = (h.perform u).tickets ∧
      Alike name h.id g.id (h.perform u).world (g.perform u).world := by
  cases u with
  | check =>
    obtain ⟨hr, ha⟩ := alike_check h.world g.world hw
    exact ⟨by simp only [answer, hr], ht, ha⟩
  | enter =>
    obtain ⟨hr, ha⟩ := alike_enter h.world g.world hw
    refine ⟨by simp only [answer, hr], ?_, ?_⟩
    · rw [tickets_perform_enter, tickets_perform_enter, hr, ht]
    · rw [world_perform_enter, world_perform_enter]
      exact ha
  | release place =>
    cases hplace : h.tickets[place]? with
    | none =>
      have hplace' : g.tickets[place]? = none := by rw [ht, hplace]
      have hsame : h.perform (.release place) = h := by simp only [perform, hplace]
      have hsame' : g.perform (.release place) = g := by simp only [perform, hplace']
      rw [hsame, hsame']
      exact ⟨by simp only [answer, hplace, hplace'], ht, hw⟩
    | some t =>
      have hplace' : g.tickets[place]? = some t := by rw [ht, hplace]
      obtain ⟨hr, ha⟩ := alike_release t h.world g.world hw
      refine ⟨by simp only [answer, hplace, hplace', hr], ?_, ?_⟩
      · rw [tickets_perform_release hplace, tickets_perform_release hplace', hr, ht]
      · rw [world_perform_release hplace, world_perform_release hplace']
        exact ha
  | succeed =>
    obtain ⟨hr, ha⟩ := alike_advance State.recordSuccess h.world g.world hw
    exact ⟨congrArg (Except.map _) hr.symm, ht, ha⟩
  | fail =>
    obtain ⟨hr, ha⟩ := alike_advance State.recordFailure h.world g.world hw
    exact ⟨congrArg (Except.map _) hr.symm, ht, ha⟩
  | reset =>
    obtain ⟨hr, ha⟩ := alike_advance (fun s _ now => s.reset now) h.world g.world hw
    exact ⟨congrArg (Except.map _) hr.symm, ht, ha⟩
  | configure k =>
    obtain ⟨hr, ha⟩ := alike_configure k h.world g.world hw
    exact ⟨congrArg (Except.map _) hr.symm, ht, ha⟩
  | pass now =>
    exact ⟨rfl, ht, rfl, hw.cell, hw.agree.delivery, hw.agree.environment, hw.agree.sinks,
      hw.agree.account⟩

end Session

namespace Desk

/-- Desks at which the same is known of a name. -/
structure Alike (name : String) (d e : Desk τ σ) : Prop where
  agree : Agree name d.world e.world
  named : e.world.registry.named? name = d.world.registry.named? name
  tickets : e.tickets name = d.tickets name

variable {d d' e : Desk τ σ} {names names' : List String} {id : Id} {o : Order τ}
  {r : Except Stop (Reply τ)}

theorem Alike.refl (name : String) (d : Desk τ σ) : Alike name d d :=
  ⟨Agree.refl name d.world, rfl, rfl⟩

theorem alike_pass (ha : Alike name d e) (now : τ) : Alike name (d.when now) (e.when now) :=
  ⟨⟨ha.agree.delivery, ha.agree.environment, ha.agree.sinks, ha.agree.account⟩, ha.named,
    ha.tickets⟩

theorem apart_pass (ha : Alike name d e) (now : τ) : Alike name (d.when now) e :=
  ⟨unseen_pass d.world now _ ha.agree, ha.named, ha.tickets⟩

theorem Alike.held (hd : d.Sound names) (he : e.Sound names') (ha : Alike name d e) :
    d.held name = none ∧ e.held name = none ∨ ∃ i j c, d.held name = some i ∧
      e.held name = some j ∧ d.world.registry.cell? i = some c ∧
      e.world.registry.cell? j = some c := by
  have hnamed := ha.named
  rw [hd.named?, he.named?] at hnamed
  cases hi : d.held name with
  | none =>
    cases hj : e.held name with
    | none => exact Or.inl ⟨rfl, rfl⟩
    | some j =>
      obtain ⟨c, hc, -⟩ := he.cell hj
      rw [hi, hj] at hnamed
      cases hc.symm.trans hnamed
  | some i =>
    obtain ⟨c, hc, -⟩ := hd.cell hi
    rw [hi] at hnamed
    cases hj : e.held name with
    | none =>
      rw [hj] at hnamed
      cases hnamed.trans hc
    | some j =>
      rw [hj] at hnamed
      exact Or.inr ⟨i, j, c, rfl, rfl, hc, hnamed.trans hc⟩

variable [Clock τ]

theorem apart_use (h : d.Sound names) {other : String} (hid : d.held other = some id)
    (hne : other ≠ name) (u : Use τ) (ha : Alike name d e) : Alike name (d.use other id u).2 e := by
  obtain ⟨c, hc, hkey⟩ := h.cell hid
  have helse : Elsewhere name id d.world (d.use other id u).2.world :=
    Session.elsewhere_perform (h := d.session other id) hc hkey u
  refine ⟨helse.unseen (fun c' hc' => ?_) _ ha.agree, ?_, ?_⟩
  · rw [Option.some.inj (hc'.symm.trans hc), hkey]
    exact hne
  · refine ha.named.trans (helse.within.named? fun hname => hne ?_).symm
    exact h.eq_of_held hid ((h.held name).trans hname)
  · exact ha.tickets.trans (Function.update_of_ne (Ne.symm hne) _ _).symm

/-- Nothing shows under a name of what is asked for under another one. -/
theorem Turn.apart (h : d.Sound names) (t : Turn d names o r d' names')
    (ho : o.concerns name = false) (ha : Alike name d e) : Alike name d' e := by
  cases t with
  | adopted n id hid =>
    have hne : n.name ≠ name := by simpa [Order.concerns] using ho
    refine ⟨unseen_setRegistry _ _ _ ha.agree, ?_, ha.tickets⟩
    refine ha.named.trans ((h.within_adopt hid).named? fun hname => hne ?_).symm
    exact h.eq_of_held hid ((h.held name).trans hname)
  | made n hn =>
    have hne : n.name ≠ name := by simpa [Order.concerns] using ho
    have hlogged : (madeRecord n.config).isOf name = false :=
      LogRecord.isOf_eq_false (by simp [madeRecord])
    refine ⟨?_, ?_, ha.tickets⟩
    · exact unseen_logged hlogged _ _ (unseen_setRegistry d.world _ _ ha.agree)
    · exact ha.named.trans (h.lists.named?_add_other n.key_eq hn (Ne.symm hne)).symm
  | idle o r _ _ => exact ha
  | used other id u hid =>
    exact apart_use h hid (by simpa [Order.concerns] using ho) u ha
  | reset other id hid =>
    exact apart_use h hid (by simpa [Order.concerns] using ho) .reset ha

theorem alike_use (hd : d.Sound names) (he : e.Sound names') (ha : Alike name d e)
    (hnow : e.world.now = d.world.now) {i j : Id} {c : Cell τ} (hi : d.held name = some i)
    (hj : e.held name = some j) (hci : d.world.registry.cell? i = some c)
    (hcj : e.world.registry.cell? j = some c) (u : Use τ) :
    (e.use name j u).1 = (d.use name i u).1 ∧ Alike name (d.use name i u).2 (e.use name j u).2 := by
  obtain ⟨hr, ht, hw⟩ := Session.alike_perform (h := d.session name i) (g := e.session name j)
    ha.tickets ⟨hnow, hcj.trans hci.symm, ha.agree⟩ u
  refine ⟨hr, hw.agree, ?_, ?_⟩
  · rw [(Turn.sound_use hd hi u).named?, (Turn.sound_use he hj u).named?]
    show (e.held name).bind _ = (d.held name).bind _
    rw [hi, hj]
    exact hw.cell
  · show Function.update e.tickets name _ name = Function.update d.tickets name _ name
    rw [Function.update_self, Function.update_self]
    exact ht

/-- An order under a name has the same reply at both desks. -/
theorem alike_carryOut (hd : d.Sound names) (he : e.Sound names') (ha : Alike name d e)
    (hnow : e.world.now = d.world.now) (ho : o.concerns name = true) :
    (e.carryOut o).1.map (·.under name) = (d.carryOut o).1.map (·.under name) ∧
      Alike name (d.carryOut o).2 (e.carryOut o).2 := by
  cases o with
  | get n =>
    obtain rfl : n.name = name := by simpa [Order.concerns] using ho
    rcases ha.held hd he with ⟨hi, hj⟩ | ⟨i, j, c, hi, hj, hci, hcj⟩
    · rw [hd.get_new hi, he.get_new hj]
      refine ⟨rfl, (agree_setRegistry ha.agree _ _).addLog _, ?_, ha.tickets⟩
      have hnamed := hd.lists.named?_add_self n.key_eq (hd.held_eq_none.1 hi)
      have hnamed' := he.lists.named?_add_self n.key_eq (he.held_eq_none.1 hj)
      exact hnamed'.trans hnamed.symm
    · rw [hd.get_held hi, he.get_held hj]
      refine ⟨rfl, agree_setRegistry ha.agree _ _, ?_, ha.tickets⟩
      have hnamed := Registry.named?_setConfig_self ((hd.held _).symm.trans hi) hci n.config
      have hnamed' := Registry.named?_setConfig_self ((he.held _).symm.trans hj) hcj n.config
      exact hnamed'.trans hnamed.symm
  | reset other =>
    obtain rfl : other = name := by simpa [Order.concerns] using ho
    rcases ha.held hd he with ⟨hi, hj⟩ | ⟨i, j, c, hi, hj, hci, hcj⟩
    · rw [hd.reset_none hi, he.reset_none hj]
      exact ⟨rfl, ha⟩
    · rw [hd.reset_held hi, he.reset_held hj]
      obtain ⟨hr, ha'⟩ := alike_use hd he ha hnow hi hj hci hcj .reset
      exact ⟨by rw [hr], ha'⟩
  | state other =>
    obtain rfl : other = name := by simpa [Order.concerns] using ho
    refine ⟨?_, ha⟩
    show Except.ok (Reply.state ((e.world.registry.named? other).map (·.state))) =
      Except.ok (Reply.state ((d.world.registry.named? other).map (·.state)))
    rw [ha.named]
  | snapshot =>
    refine ⟨?_, ha⟩
    show Except.ok (Reply.statuses (e.world.registry.snapshot.find? _).toList) =
      Except.ok (Reply.statuses (d.world.registry.snapshot.find? _).toList)
    rw [hd.lists.find?_snapshot, he.lists.find?_snapshot, ha.named]
  | use other u =>
    obtain rfl : other = name := by simpa [Order.concerns] using ho
    rcases ha.held hd he with ⟨hi, hj⟩ | ⟨i, j, c, hi, hj, hci, hcj⟩
    · rw [carryOut_use_none hi, carryOut_use_none hj]
      exact ⟨rfl, ha⟩
    · rw [carryOut_use_held hi, carryOut_use_held hj]
      obtain ⟨hr, ha'⟩ := alike_use hd he ha hnow hi hj hci hcj u
      exact ⟨by rw [hr], ha'⟩

/-- What is heard of a name, and what becomes of its breaker, is the same if the steps that do not
concern the name are left out. -/
theorem separate (hd : d.Sound names) (he : e.Sound names') (ha : Alike name d e)
    (steps : List (Step τ)) :
    (d.transcript steps).filterMap (heard name) =
        (e.transcript (own name steps)).filterMap (heard name) ∧
      Alike name (d.after steps) (e.after (own name steps)) := by
  -- a step that is left out may add a name to what one desk lists, so each has names of its own
  induction steps generalizing d e names names' with
  | nil => exact ⟨rfl, ha⟩
  | cons s steps ih =>
    have hd' : (d.when s.now).Sound names := ⟨hd.lists, hd.held⟩
    have he' : (e.when s.now).Sound names' := ⟨he.lists, he.held⟩
    obtain ⟨names₁, t⟩ := hd'.turn s.order
    cases ho : s.order.concerns name with
    | true =>
      obtain ⟨names₂, t'⟩ := he'.turn s.order
      obtain ⟨hr, ha'⟩ := alike_carryOut hd' he' (alike_pass ha s.now) rfl ho
      obtain ⟨hrest, hafter⟩ := ih (t.sound hd') (t'.sound he') ha'
      have hown : own name (s :: steps) = s :: own name steps := List.filter_cons_of_pos ho
      have hheard : ∀ r, heard name (s, r) = some (s, r.map (·.under name)) := fun _ => if_pos ho
      have hfirst : (d.perform s).1.map (·.under name) = (e.perform s).1.map (·.under name) :=
        hr.symm
      rw [hown, transcript, transcript, List.filterMap_cons, List.filterMap_cons, hheard, hheard,
        hfirst]
      exact ⟨congrArg _ hrest, hafter⟩
    | false =>
      obtain ⟨hrest, hafter⟩ := ih (t.sound hd') he (t.apart hd' ho (apart_pass ha s.now))
      have hown : own name (s :: steps) = own name steps := by
        simp [own, ho]
      have hheard : heard name (s, (d.perform s).1) = none := by
        simp [heard, ho]
      rw [hown, transcript, List.filterMap_cons, hheard]
      exact ⟨hrest, hafter⟩

/-- Whoever asks for a name is given the one breaker that there is for it. Its state is the one that
the registry tells of, and to ask for it again changes its configuration and nothing else. The
snapshot tells of the names that were asked for, in the order in which they first were, with their
breakers as they are and the configurations that these were given last. And of a name, all is the
same if what does not concern it is left out: what was replied, its breaker, and what was observed
under it. -/
theorem breakers_shared_and_separate (w : World τ σ) (steps : List (Step τ)) :
    let d := (opened w).after steps
    (∀ p ∈ (opened w).transcript steps, ∀ n, p.1.order = .get n →
      ∃ id c, p.2 = .ok (.got id) ∧ d.held n.name = some id ∧
        d.world.registry.cell? id = some c ∧ ∀ now,
          d.perform ⟨now, .state n.name⟩ = (.ok (.state (some c.state)), d.when now) ∧
          ∀ n' : Named, n'.name = n.name → d.perform ⟨now, .get n'⟩ = (.ok (.got id),
            { d with world := { d.world with
              now
              registry := d.world.registry.setConfig id n'.config } })) ∧
    (∀ now, ∃ cells, d.perform ⟨now, .snapshot⟩ = (.ok (.statuses cells), d.when now) ∧
      cells.map (·.1) = (asked steps).map .text ∧
      ∀ name c, (.text name, c) ∈ cells → ∃ id, d.held name = some id ∧
        d.world.registry.cell? id = some c ∧ latest? name steps = some c.config) ∧
    ∀ name,
      let e := (opened w).after (own name steps)
      ((opened w).transcript steps).filterMap (heard name) =
          ((opened w).transcript (own name steps)).filterMap (heard name) ∧
        d.world.registry.named? name = e.world.registry.named? name ∧
        d.world.account name = e.world.account name := by
  intro d
  have hshared : Shared w steps := shared w steps
  have hsound : d.Sound (asked steps) := hshared.sound
  have hwhen : ∀ now, (d.when now).Sound (asked steps) := fun _ => ⟨hsound.lists, hsound.held⟩
  refine ⟨fun p hp n hn => ?_, fun now => ?_, fun name => ?_⟩
  · obtain ⟨id, hreply, hid⟩ := hshared.same p hp n hn
    obtain ⟨c, hc, hkey⟩ := hsound.cell hid
    refine ⟨id, c, hreply, hid, hc, fun now => ⟨?_, fun n' hn' => ?_⟩⟩
    · have hnamed : d.world.registry.named? n.name = some c := by
        rw [hsound.named?, hid]
        exact hc
      show (Except.ok (Reply.state ((d.world.registry.named? n.name).map (·.state))), d.when now) =
        _
      rw [hnamed]
      rfl
    · exact (hwhen now).get_held (by rw [hn']; exact hid)
  · refine ⟨d.world.registry.snapshot, rfl, hsound.lists.map_fst_snapshot, fun name c hc => ?_⟩
    obtain ⟨id, hfind, hcell⟩ := hsound.lists.of_mem_snapshot hc
    have hid : d.held name = some id := (hsound.held name).trans hfind
    exact ⟨id, hid, hcell, hshared.latest name id c hid hcell⟩
  · have hopened : (opened w).Sound (asked ([] : List (Step τ))) := (shared w []).sound
    obtain ⟨hreplies, halike⟩ := separate hopened hopened (Alike.refl name (opened w)) steps
    exact ⟨hreplies, halike.named.symm, halike.agree.account.symm⟩

end Desk

end ResilientCalls.Breaker
