import ResilientCalls.Proofs.Abreast
import ResilientCalls.Proofs.Tally

namespace ResilientCalls

open Effect World

variable {τ σ α : Type}

/-- Are these labels of a key? -/
def Json.labelsKey (key : String) : Json → Bool
  | .object labels => (Json.get? "key" labels).any (·.isTextOf key)
  | _ => false

/-- Was an observation under a key logged? -/
def LogRecord.isOf (key : String) (r : LogRecord) : Bool :=
  r.event = "metric" && (Json.get? "labels" r.fields).any (·.labelsKey key)

def Datum.isOf (key : String) (d : Datum) : Bool := d.dimensions.contains ("key", key)

/-- What was observed under a key: kept in a ledger, by its number, logged or published. -/
structure Account where
  kept : Nat → List Metric
  logged : List LogRecord
  published : List (Json × Datum)

namespace World

def account (key : String) (w : World τ σ) : Account where
  kept n := ((w.ledgers[n]?).getD .empty).metrics.filter (·.labels.labelsKey key)
  logged := w.log.filter (·.isOf key)
  published := w.published.filter (·.2.isOf key)

/-- Both worlds have the same shared sink, or the first has made the one that the second would. -/
def SinkShared (w v : World τ σ) : Prop :=
  v.sharedSink = w.sharedSink ∧ v.ledgers.length = w.ledgers.length ∨
    ∃ s, w.sharedSink = some s ∧ v.sharedSink = none ∧ s.number = v.ledgers.length ∧
      w.ledgers.length = v.ledgers.length + 1 ∧
      ∀ u : World τ σ, u.environment = v.environment → Sink.ofName .null .null u =
        Sink.make s.backend u

/-- Worlds whose accounts of a key agree, and go on to agree. -/
structure Agree (key : String) (w v : World τ σ) : Prop where
  delivery : v.delivery = w.delivery
  environment : v.environment = w.environment
  sinks : SinkShared w v
  account : v.account key = w.account key

/-- Worlds that also have as many ledgers, as is so once their shared sink has been used. -/
def InStep (key : String) (w v : World τ σ) : Prop :=
  Agree key w v ∧ v.ledgers.length = w.ledgers.length

/-- A world and a later one that agree with the same worlds. -/
def Unseen (key : String) (w w' : World τ σ) : Prop := ∀ v, Agree key w v → Agree key w' v

instance (key : String) : Std.Refl (@Unseen τ σ key) := ⟨fun _ _ h => h⟩

instance (key : String) : IsTrans (World τ σ) (Unseen key) := ⟨fun _ _ _ h k v hv => k v (h v hv)⟩

variable {key : String} {w v : World τ σ}

theorem Agree.refl (key : String) (w : World τ σ) : Agree key w w :=
  ⟨rfl, rfl, Or.inl ⟨rfl, rfl⟩, rfl⟩

theorem account_addLog (key : String) (w : World τ σ) (r : LogRecord) :
    (w.addLog r).account key =
      { w.account key with logged := (w.account key).logged ++ [r].filter (·.isOf key) } := by
  simp [account, addLog, List.filter_append]

theorem account_addPublished (key : String) (w : World τ σ) (p : Json × Datum) :
    { w with published := w.published ++ [p] }.account key =
      { w.account key with
        published := (w.account key).published ++ [p].filter (·.2.isOf key) } := by
  simp [account, List.filter_append]

theorem account_modifyLedger (key : String) (w : World τ σ) (s : Sink) (m : Metric) :
    (w.modifyLedger s (·.add m)).account key =
      { w.account key with
        kept := fun n => (w.account key).kept n ++
          if s.number = n ∧ n < w.ledgers.length then [m].filter (·.labels.labelsKey key)
          else [] } := by
  simp only [account, modifyLedger, Account.mk.injEq, and_true]
  funext n
  rw [List.getElem?_modify]
  by_cases hn : s.number = n
  · by_cases hlt : n < w.ledgers.length
    · simp [hn, hlt, Ledger.add, List.filter_append]
    · simp [hn, hlt]
  · simp [hn]

theorem account_makeShared (key : String) (w : World τ σ) (s : Option Sink) :
    { w with ledgers := w.ledgers ++ [Ledger.empty], sharedSink := s }.account key =
      w.account key := by
  simp only [account, Account.mk.injEq, and_true]
  funext n
  -- nothing is kept yet in the ledger that is added, as if there were none
  by_cases hlt : n < w.ledgers.length
  · rw [List.getElem?_append_left hlt]
  · by_cases hn : n = w.ledgers.length
    · simp [hn, Ledger.empty]
    · have hnone : (w.ledgers ++ [Ledger.empty])[n]? = none := by
        rw [List.getElem?_eq_none]
        simp
        omega
      simp [hnone, List.getElem?_eq_none (Nat.le_of_not_lt hlt)]

theorem SinkShared.modifyLedger_left (h : SinkShared w v) (s : Sink) (f : Ledger → Ledger) :
    SinkShared (w.modifyLedger s f) v := by
  simpa [SinkShared, modifyLedger] using h

theorem SinkShared.modifyLedger_right (h : SinkShared w v) (s : Sink) (f : Ledger → Ledger) :
    SinkShared w (v.modifyLedger s f) := by
  simpa [SinkShared, modifyLedger] using h

theorem Agree.addLog (h : Agree key w v) (r : LogRecord) :
    Agree key (w.addLog r) (v.addLog r) where
  delivery := h.delivery
  environment := h.environment
  sinks := h.sinks
  account := by rw [account_addLog, account_addLog, h.account]

theorem Agree.addPublished (h : Agree key w v) (p : Json × Datum) :
    Agree key { w with published := w.published ++ [p] }
      { v with published := v.published ++ [p] } where
  delivery := h.delivery
  environment := h.environment
  sinks := h.sinks
  account := by rw [account_addPublished, account_addPublished, h.account]

theorem InStep.modifyLedger (h : InStep key w v) (s : Sink) (m : Metric) :
    InStep key (w.modifyLedger s (·.add m)) (v.modifyLedger s (·.add m)) := by
  refine ⟨⟨h.1.delivery, h.1.environment, ?_, ?_⟩, ?_⟩
  · exact (h.1.sinks.modifyLedger_left s _).modifyLedger_right s _
  · rw [account_modifyLedger, account_modifyLedger, h.1.account, h.2]
  · simpa [World.modifyLedger] using h.2

end World

variable {key : String}

theorem agree_logged (r : LogRecord) :
    Abreast (Agree key) (Run.logged r : Run τ σ Unit) (Run.logged r) (Agree key) :=
  Abreast.modify fun _ _ h => h.addLog r

theorem inStep_logged (r : LogRecord) :
    Abreast (InStep key) (Run.logged r : Run τ σ Unit) (Run.logged r) (InStep key) :=
  Abreast.modify fun _ _ h => ⟨h.1.addLog r, h.2⟩

namespace Sink

theorem inStep_publish (n : Json) (d : Datum) :
    Abreast (InStep key) (publish n d : Run τ σ Unit) (publish n d) (InStep key) := by
  refine Abreast.bind (Abreast.modify fun _ _ h => ⟨h.1.addPublished (n, d), h.2⟩) (fun _ => ?_)
    le_rfl
  refine Abreast.get_bind fun w v h => ?_
  rw [h.1.delivery]
  cases w.delivery with
  | accepted => exact Abreast.pure _
  | refused reason => exact inStep_logged _
  | broken f => exact Abreast.fail f

theorem inStep_record (s : Sink) (m : Metric) :
    Abreast (InStep key) (s.record m : Run τ σ Unit) (s.record m) (InStep key) := by
  unfold record
  split
  · refine Abreast.bind (Abreast.ofForeign _) (fun m => ?_) le_rfl
    exact Abreast.modify fun _ _ h => h.modifyLedger s m
  · exact inStep_logged _
  · exact Abreast.bind (Abreast.ofExcept _) (fun _ => inStep_publish _ _) le_rfl

/-- The shared sink is the same one from both worlds, whoever makes it first. -/
theorem inStep_shared : Abreast (Agree key) (shared : Run τ σ Sink) shared (InStep key) := by
  intro w v h
  cases hw : w.sharedSink with
  | some s =>
    rw [shared_of_some hw]
    rcases h.sinks with ⟨hs, hl⟩ | ⟨s', hs', hv, hn, hl, hmake⟩
    · rw [shared_of_some (hs.trans hw)]
      exact ⟨rfl, h, hl⟩
    · -- the second world makes now what the first has made before, under the same number
      obtain rfl : s = s' := Option.some.inj (hw.symm.trans hs')
      rw [shared_of_make hv (hmake v rfl), ← hn]
      have hlength : (v.ledgers ++ [Ledger.empty]).length = w.ledgers.length := by
        simp [hl]
      refine ⟨rfl, ⟨h.delivery, h.environment, Or.inl ⟨hw.symm, hlength⟩, ?_⟩, hlength⟩
      rw [account_makeShared]
      exact h.account
  | none =>
    rcases h.sinks with ⟨hs, hl⟩ | ⟨s', hs', -⟩
    · obtain ⟨b, hb⟩ := ofName_eq_make w
      rw [shared_of_make hw (hb w rfl), shared_of_make (hs.trans hw) (hb v h.environment), hl]
      have hlength : (v.ledgers ++ [Ledger.empty]).length =
          (w.ledgers ++ [Ledger.empty]).length := by
        simp [hl]
      refine ⟨rfl, ⟨h.delivery, h.environment, Or.inl ⟨rfl, hlength⟩, ?_⟩, hlength⟩
      rw [account_makeShared, account_makeShared]
      exact h.account
    · cases hw.symm.trans hs'

theorem agree_count (name : String) (labels : List (String × Json)) :
    Abreast (Agree key) (count none name labels : Run τ σ Unit) (count none name labels)
      (Agree key) := by
  have hrecord : ∀ s : Sink, Abreast (InStep key)
      (s.record ⟨.text name, .int 1, .object labels⟩ : Run τ σ Unit)
      (s.record ⟨.text name, .int 1, .object labels⟩) (Agree key) := fun s =>
    (inStep_record s _).mono le_rfl fun _ _ h => h.1
  exact Abreast.bind inStep_shared hrecord fun _ _ h => h.1

end Sink

theorem Json.labelsKey_eq_false {labels : List (String × Json)}
    (h : ∀ l ∈ labels, l.1 = "key" → l.2.plain ≠ key) :
    (Json.object labels).labelsKey key = false := by
  cases hfound : Json.get? "key" labels with
  | none => simp [Json.labelsKey, hfound]
  | some j =>
    obtain ⟨l, hl, rfl⟩ : ∃ l, labels.find? (fun f => f.1 = "key") = some l ∧ l.2 = j := by
      simpa [Json.get?] using hfound
    have hplain := h l (List.mem_of_find?_eq_some hl) (by simpa using List.find?_some hl)
    have hne : l.2.isTextOf key = false := by
      cases hj : l.2 with
      | text s =>
        rw [hj] at hplain
        exact decide_eq_false hplain
      | _ => rfl
    simp [Json.labelsKey, hfound, hne]

theorem unseen_logged {r : LogRecord} (hr : r.isOf key = false) :
    Moves (Unseen key) (Run.logged r : Run τ σ Unit) := by
  refine Moves.modify fun w v h => ⟨h.delivery, h.environment, h.sinks, ?_⟩
  rw [account_addLog, h.account]
  simp [hr]

theorem LogRecord.isOf_eq_false {r : LogRecord} (h : r.event ≠ "metric") : r.isOf key = false := by
  simp [isOf, h]

namespace Sink

theorem unseen_shared : Moves (Unseen key) (shared : Run τ σ Sink) := by
  intro w v h
  cases hw : w.sharedSink with
  | some s =>
    rw [shared_of_some hw]
    exact h
  | none =>
    rcases h.sinks with ⟨hs, hl⟩ | ⟨s', hs', -⟩
    · obtain ⟨b, hb⟩ := ofName_eq_make w
      rw [shared_of_make hw (hb w rfl)]
      refine ⟨h.delivery, h.environment,
        Or.inr ⟨_, rfl, hs.trans hw, hl.symm, by simp [hl], ?_⟩, ?_⟩
      · exact fun u hu => hb u (hu.trans h.environment)
      · rw [account_makeShared]
        exact h.account
    · cases hw.symm.trans hs'

theorem unseen_publish (n : Json) {d : Datum} (hd : d.isOf key = false) :
    Moves (Unseen key) (publish n d : Run τ σ Unit) := by
  refine Moves.bind (Moves.modify fun w v h => ⟨h.delivery, h.environment, h.sinks, ?_⟩) fun _ => ?_
  · rw [account_addPublished, h.account]
    simp [hd]
  · refine Moves.bind Moves.get fun w => ?_
    split
    · exact Moves.pure _
    · exact unseen_logged (LogRecord.isOf_eq_false (by simp))
    · exact Moves.fail _

theorem isOf_dimensionsOf {labels : List (String × Json)}
    (h : ∀ l ∈ labels, l.1 = "key" → l.2.plain ≠ key) (name : Json) (value : Binary64) :
    Datum.isOf key ⟨name, value, "Count", Datum.dimensionsOf labels⟩ = false := by
  have hnone : ("key", key) ∉ Datum.dimensionsOf labels := by
    intro hmem
    obtain ⟨l, hl, hpair⟩ := List.mem_map.1 (List.mem_of_mem_take hmem)
    obtain ⟨hname, hvalue⟩ := Prod.mk.inj hpair
    exact h l (List.mem_mergeSort.1 (List.mem_filter.1 hl).1) hname hvalue
  simpa [Datum.isOf] using hnone

theorem unseen_count (name : String) {labels : List (String × Json)}
    (h : ∀ l ∈ labels, l.1 = "key" → l.2.plain ≠ key) :
    Moves (Unseen key) (count none name labels : Run τ σ Unit) := by
  have hkey : (Json.object labels).labelsKey key = false := Json.labelsKey_eq_false h
  refine Moves.bind unseen_shared fun s => ?_
  unfold record
  split
  · simp only [Metric.kept, Metric.givenLabels_object, Json.dictionary]
    intro w v h
    refine ⟨h.delivery, h.environment, h.sinks.modifyLedger_left s _, ?_⟩
    refine h.account.trans ?_
    show _ = (w.modifyLedger s (·.add ⟨.text name, .int 1, .object labels⟩)).account key
    rw [account_modifyLedger]
    simp [hkey]
  · refine unseen_logged ?_
    simp [LogRecord.isOf, Metric.logRecord, Json.get?, Metric.givenLabels_object, hkey]
  · simp only [Datum.ofMetric, Metric.givenLabels_object]
    exact unseen_publish _ (isOf_dimensionsOf h _ _)

end Sink

end ResilientCalls
