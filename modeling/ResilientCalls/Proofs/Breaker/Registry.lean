import Mathlib.Data.List.Find
import Mathlib.Data.List.Nodup
import ResilientCalls.Proofs.Breaker.Steps

namespace ResilientCalls

theorem Json.isSame_text (s t : String) : (Json.text s).isSame (.text t) = decide (s = t) := by
  simp [isSame, equals, isNoNumber]

theorem Json.eq_text_of_equals {j : Json} {t : String} (h : j.equals (.text t) = true) :
    j = .text t := by
  cases j with
  | text s => simpa [equals] using h
  | _ => simp [equals, isNull, number?] at h

namespace Breaker

variable {τ σ : Type}

namespace Registry

/-- The breaker of a name. -/
def named? (r : Registry τ) (name : String) : Option (Cell τ) :=
  (r.find? (.text name)).bind r.cell?

/-- A registry with one breaker a name, in this order. -/
structure Lists (r : Registry τ) (names : List String) : Prop where
  live : r.live = names.zipIdx.map fun p => (.text p.1, p.2)
  keys : r.cells.map (·.key) = names.map .text
  configs : r.cells.map (·.config.key) = names.map .text
  nodup : names.Nodup

theorem lists_empty : Lists (empty : Registry τ) [] := ⟨rfl, rfl, rfl, List.nodup_nil⟩

theorem find?_zipIdx {names : List String} (hn : names.Nodup) {name : String} {i : Nat}
    (h : names[i]? = some name) (k : Nat) :
    ((names.zipIdx k).map fun p => (Json.text p.1, p.2)).find? (fun p => p.1.isSame (.text name)) =
      some (.text name, i + k) := by
  -- the places are counted from `k` on, as those of the names after the first one are
  induction names generalizing i k with
  | nil => simp at h
  | cons first rest ih =>
    rw [List.zipIdx_cons, List.map_cons, List.find?_cons, Json.isSame_text]
    cases i with
    | zero =>
      obtain rfl : first = name := by simpa using h
      simp
    | succ i =>
      have hrest : rest[i]? = some name := by simpa using h
      have hne : first ≠ name := by
        rintro rfl
        exact (List.nodup_cons.1 hn).1 (List.mem_of_getElem? hrest)
      rw [decide_eq_false hne, ih (List.nodup_cons.1 hn).2 hrest]
      simp
      omega

namespace Lists

variable {r : Registry τ} {names : List String} {name : String} {i : Id}

theorem find?_eq (h : r.Lists names) (hi : names[i]? = some name) :
    r.find? (.text name) = some i := by
  rw [find?, h.live, find?_zipIdx h.nodup hi]
  simp

theorem find?_eq_none (h : r.Lists names) (hname : name ∉ names) :
    r.find? (.text name) = none := by
  have hnone : ∀ p ∈ names.zipIdx.map fun p => (Json.text p.1, p.2),
      ¬ p.1.isSame (.text name) = true := by
    intro p hp
    obtain ⟨q, hq, rfl⟩ := List.mem_map.1 hp
    rw [Json.isSame_text, decide_eq_true_eq]
    rintro rfl
    exact hname (List.fst_mem_of_mem_zipIdx hq)
  rw [find?, h.live, List.find?_eq_none.2 hnone]
  rfl

theorem find?_eq_some_iff (h : r.Lists names) :
    r.find? (.text name) = some i ↔ names[i]? = some name := by
  refine ⟨fun hi => ?_, h.find?_eq⟩
  by_cases hname : name ∈ names
  · obtain ⟨j, hj⟩ := List.getElem?_of_mem hname
    obtain rfl : j = i := Option.some.inj ((h.find?_eq hj).symm.trans hi)
    exact hj
  · cases (h.find?_eq_none hname).symm.trans hi

theorem cell?_of_getElem? (h : r.Lists names) (hi : names[i]? = some name) :
    ∃ c, r.cell? i = some c ∧ c.key = .text name ∧ c.config.key = .text name := by
  have hkey : (r.cells.map (·.key))[i]? = some (.text name) := by
    rw [h.keys, List.getElem?_map, hi]
    rfl
  have hconfig : (r.cells.map (·.config.key))[i]? = some (.text name) := by
    rw [h.configs, List.getElem?_map, hi]
    rfl
  rw [List.getElem?_map] at hkey hconfig
  obtain ⟨c, hc, hk⟩ := Option.map_eq_some_iff.1 hkey
  rw [hc] at hconfig
  exact ⟨c, hc, hk, Option.some.inj hconfig⟩

theorem cell?_of_find? (h : r.Lists names) (hi : r.find? (.text name) = some i) :
    ∃ c, r.cell? i = some c ∧ c.key = .text name ∧ c.config.key = .text name :=
  h.cell?_of_getElem? (h.find?_eq_some_iff.1 hi)

theorem length_eq (h : r.Lists names) : r.cells.length = names.length := by
  simpa using congrArg List.length h.keys

end Lists

/-- What is done to one breaker, apart from its state. -/
structure Within (i : Id) (r r' : Registry τ) : Prop where
  live : r'.live = r.live
  keys : r'.cells.map (·.key) = r.cells.map (·.key)
  configs : r'.cells.map (·.config.key) = r.cells.map (·.config.key)
  others : ∀ j, j ≠ i → r'.cell? j = r.cell? j

instance (i : Id) : Std.Refl (@Within τ i) := ⟨fun _ => ⟨rfl, rfl, rfl, fun _ _ => rfl⟩⟩

instance (i : Id) : IsTrans (Registry τ) (Within i) :=
  ⟨fun _ _ _ h k => ⟨k.live.trans h.live, k.keys.trans h.keys, k.configs.trans h.configs,
    fun j hj => (k.others j hj).trans (h.others j hj)⟩⟩

section Within

variable {r r' : Registry τ} {names : List String} {name : String} {i j : Id}

theorem map_modify_of_same {β γ : Type} {f : β → γ} {g : β → β} {l : List β} {i : Nat}
    (h : ∀ b, l[i]? = some b → f (g b) = f b) : (l.modify i g).map f = l.map f := by
  apply List.ext_getElem?
  intro n
  rw [List.getElem?_map, List.getElem?_map, List.getElem?_modify]
  by_cases hn : i = n
  · subst hn
    cases hb : l[i]? with
    | none => simp
    | some b => simp [h b hb]
  · simp [hn]

theorem within_setState (r : Registry τ) (i : Id) (s : State τ) : Within i r (r.setState i s) where
  live := rfl
  keys := map_modify_of_same fun _ _ => rfl
  configs := map_modify_of_same fun _ _ => rfl
  others j hj := by rw [cell?_setState, if_neg (Ne.symm hj)]

theorem within_setConfig {k : Config} (h : ∀ c, r.cell? i = some c → c.config.key = k.key) :
    Within i r (r.setConfig i k) where
  live := rfl
  keys := map_modify_of_same fun _ _ => rfl
  configs := map_modify_of_same fun c hc => (h c hc).symm
  others j hj := by rw [cell?_setConfig, if_neg (Ne.symm hj)]

theorem Within.find? (h : Within i r r') (key : Json) : r'.find? key = r.find? key := by
  rw [Registry.find?, Registry.find?, h.live]

theorem Within.lists (h : Within i r r') (hr : r.Lists names) : r'.Lists names :=
  ⟨h.live.trans hr.live, h.keys.trans hr.keys, h.configs.trans hr.configs, hr.nodup⟩

theorem Within.config_key (h : Within i r r') {c' : Cell τ} (hc' : r'.cell? j = some c') :
    ∃ c, r.cell? j = some c ∧ c.config.key = c'.config.key := by
  have hkey : (r.cells.map (·.config.key))[j]? = some c'.config.key := by
    rw [← h.configs, List.getElem?_map]
    exact congrArg (Option.map _) hc'
  rw [List.getElem?_map] at hkey
  exact Option.map_eq_some_iff.1 hkey

/-- What is done to one breaker is not seen of a breaker of another name. -/
theorem Within.named? (h : Within i r r') (hname : r.find? (.text name) ≠ some i) :
    r'.named? name = r.named? name := by
  unfold Registry.named?
  rw [h.find?]
  cases hj : r.find? (.text name) with
  | none => rfl
  | some j =>
    have hne : j ≠ i := by
      rintro rfl
      exact hname hj
    exact h.others j hne

end Within

section Add

variable {r : Registry τ} {names : List String} {name other : String} {k : Config}

theorem Lists.add (h : r.Lists names) (hk : k.key = .text name) (hname : name ∉ names) :
    (r.add k).1.Lists (names ++ [name]) where
  live := by simp [Registry.add, h.live, h.length_eq, hk, List.zipIdx_append]
  keys := by simp [Registry.add, h.keys, hk]
  configs := by simp [Registry.add, h.configs, hk]
  nodup := List.nodup_append'.2 ⟨h.nodup, List.nodup_singleton _, by simpa using hname⟩

theorem Lists.find?_add_self (h : r.Lists names) (hk : k.key = .text name) (hname : name ∉ names) :
    (r.add k).1.find? (.text name) = some (r.add k).2 := by
  refine (h.add hk hname).find?_eq ?_
  show (names ++ [name])[r.cells.length]? = _
  rw [h.length_eq, List.getElem?_concat_length]

theorem Lists.find?_add_other (h : r.Lists names) (hk : k.key = .text name) (hname : name ∉ names)
    (hne : other ≠ name) : (r.add k).1.find? (.text other) = r.find? (.text other) := by
  have hadd := h.add hk hname
  by_cases hother : other ∈ names
  · obtain ⟨j, hj⟩ := List.getElem?_of_mem hother
    rw [h.find?_eq hj]
    refine hadd.find?_eq ?_
    rw [List.getElem?_append_left (List.getElem?_eq_some_iff.1 hj).1]
    exact hj
  · rw [h.find?_eq_none hother]
    exact hadd.find?_eq_none (by simp [hother, hne])

theorem cell?_add_of_some {j : Id} {c : Cell τ} (hc : r.cell? j = some c) (k : Config) :
    (r.add k).1.cell? j = some c := by
  have hlt : j < r.cells.length := (List.getElem?_eq_some_iff.1 hc).1
  rw [Registry.cell?, Registry.add, List.getElem?_append_left hlt]
  exact hc

theorem Lists.named?_add_self (h : r.Lists names) (hk : k.key = .text name)
    (hname : name ∉ names) : (r.add k).1.named? name = some ⟨k.key, k, .fresh⟩ := by
  rw [named?, h.find?_add_self hk hname]
  exact cell?_add_self r k

theorem Lists.named?_add_other (h : r.Lists names) (hk : k.key = .text name)
    (hname : name ∉ names) (hne : other ≠ name) :
    (r.add k).1.named? other = r.named? other := by
  rw [named?, named?, h.find?_add_other hk hname hne]
  cases hj : r.find? (.text other) with
  | none => rfl
  | some j =>
    obtain ⟨c, hc, -⟩ := h.cell?_of_find? hj
    exact (cell?_add_of_some hc k).trans hc.symm

end Add

theorem named?_setConfig_self {r : Registry τ} {name : String} {id : Id} {c : Cell τ}
    (hid : r.find? (.text name) = some id) (hc : r.cell? id = some c) (k : Config) :
    (r.setConfig id k).named? name = some { c with config := k } := by
  have hfind : (r.setConfig id k).find? (.text name) = some id := hid
  rw [named?, hfind]
  exact cell?_setConfig_self hc k

theorem Lists.map_fst_snapshot {r : Registry τ} {names : List String} (h : r.Lists names) :
    r.snapshot.map (·.1) = names.map .text := by
  have hall : ∀ p ∈ names.zipIdx, ((r.cell? p.2).map fun c => (Json.text p.1, c)).map (·.1) =
      some (.text p.1) := by
    intro p hp
    obtain ⟨c, hc, -⟩ := h.cell?_of_getElem? (List.mem_zipIdx_iff_getElem?.1 hp)
    rw [hc]
    rfl
  have hkeys : (names.zipIdx.map fun p => Json.text p.1) = names.map .text :=
    calc (names.zipIdx.map fun p => Json.text p.1)
        = (names.zipIdx.map Prod.fst).map .text := List.map_map.symm
      _ = names.map .text := by rw [List.zipIdx_map_fst]
  rw [snapshot, h.live, List.filterMap_map, List.map_filterMap, ← hkeys]
  refine (List.filterMap_congr hall).trans ?_
  rw [List.filterMap_eq_map']

theorem Lists.of_mem_snapshot {r : Registry τ} {names : List String} (h : r.Lists names)
    {name : String} {c : Cell τ} (hc : (.text name, c) ∈ r.snapshot) :
    ∃ i, r.find? (.text name) = some i ∧ r.cell? i = some c := by
  obtain ⟨p, hp, hpair⟩ := List.mem_filterMap.1 hc
  obtain ⟨c', hc', heq⟩ := Option.map_eq_some_iff.1 hpair
  rw [h.live] at hp
  obtain ⟨q, hq, rfl⟩ := List.mem_map.1 hp
  obtain ⟨hname, rfl⟩ := Prod.mk.inj heq
  obtain rfl : q.1 = name := by simpa using hname
  exact ⟨q.2, h.find?_eq (List.mem_zipIdx_iff_getElem?.1 hq), hc'⟩

/-- What the snapshot tells of one name is its breaker. -/
theorem Lists.find?_snapshot {r : Registry τ} {names : List String} (h : r.Lists names)
    (name : String) : r.snapshot.find? (fun p => p.1.isSame (.text name)) =
      (r.named? name).map fun c => (.text name, c) := by
  have hlive : ∀ p ∈ r.live, ((r.cell? p.2).map fun c => (p.1, c)).any
      (fun p => p.1.isSame (.text name)) = p.1.isSame (.text name) := by
    intro p hp
    rw [h.live] at hp
    obtain ⟨q, hq, rfl⟩ := List.mem_map.1 hp
    obtain ⟨c, hc, -⟩ := h.cell?_of_getElem? (List.mem_zipIdx_iff_getElem?.1 hq)
    rw [hc]
    rfl
  rw [snapshot, List.find?_filterMap, List.find?_congr hlive, named?, Registry.find?]
  cases hfound : r.live.find? fun p => p.1.isSame (.text name) with
  | none => rfl
  | some p =>
    have hkey : p.1 = .text name := by
      have hp := List.mem_of_find?_eq_some hfound
      rw [h.live] at hp
      obtain ⟨q, hq, rfl⟩ := List.mem_map.1 hp
      simpa [Json.isSame_text] using List.find?_some hfound
    simp [hkey]

end Registry

open Effect

variable {w : World τ σ} {name : String} {k : Config}

theorem lookUp_text (name : String) (w : World τ σ) :
    lookUp (.text name) w = (.ok (w.registry.find? (.text name)), w) := rfl

theorem configure_same {id : Id} {c : Cell τ} (hc : w.registry.cell? id = some c)
    (hkey : k.key.equals c.config.key = true) :
    configure id k w = (.ok (), { w with registry := w.registry.setConfig id k }) := by
  rw [configure, bind_of_ok (cell_apply id w), hc]
  simp [hkey]

/-- Who asks for a name again is given the breaker that there is, with another configuration. -/
theorem enroll_of_find? {id : Id} {c : Cell τ} (hk : k.key = .text name)
    (hid : w.registry.find? (.text name) = some id) (hc : w.registry.cell? id = some c)
    (hkey : c.config.key = .text name) :
    enroll k w = (.ok (id, false), { w with registry := w.registry.setConfig id k }) := by
  have hsame : k.key.equals c.config.key = true := by
    rw [hk, hkey]
    simp [Json.equals]
  rw [enroll, hk, bind_of_ok (lookUp_text name w), hid]
  exact bind_of_ok (configure_same hc hsame) _

/-- The record of a breaker that was made. -/
def madeRecord (config : Config) : LogRecord :=
  ⟨.debug, "Created circuit breaker",
    [("service", .text "circuit_breaker_registry"), ("key", config.key),
      ("enabled", config.enabled), ("failure_threshold", config.threshold.toJson),
      ("recovery_timeout_ms", config.recoveryMs.toJson)]⟩

theorem enroll_of_none (hk : k.key = .text name)
    (hnone : w.registry.find? (.text name) = none) :
    enroll k w = (.ok ((w.registry.add k).2, true),
      { w with registry := (w.registry.add k).1 }.addLog (madeRecord k)) := by
  have hlook : lookUp k.key w = (.ok none, w) := by
    rw [hk, lookUp_text, hnone]
  rw [enroll, bind_of_ok hlook]
  rfl

theorem resetKey_text (name : String) (w : World τ σ) : resetKey (.text name) w =
    match w.registry.find? (.text name) with
    | some id => reset id w
    | none => (.ok (), w) := by
  rw [resetKey, bind_of_ok (lookUp_text name w)]
  cases w.registry.find? (.text name) <;> rfl

end Breaker

end ResilientCalls
