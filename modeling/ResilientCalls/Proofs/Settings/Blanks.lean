import Mathlib.Logic.Relation
import ResilientCalls.Proofs.Duration
import ResilientCalls.Proofs.Effect
import ResilientCalls.Settings.Environment

namespace ResilientCalls.Settings

open Duration (isAbsent)
open Text

theorem trimmed_eq_empty_iff {s : String} : trimmed s = "" ↔ allBlank s = true := by
  rw [allBlank, List.all_eq_true, trimmed, ← String.toList_inj, String.toList_ofList]
  constructor
  · intro hnil
    obtain ⟨before, after, hs, hbefore, hafter⟩ := exists_trim s.toList
    rw [hnil] at hs
    intro c hc
    rw [hs, List.mem_append] at hc
    exact hc.elim (hbefore c) (hafter c)
  · intro hblank
    have hstart : trimStart s.toList = [] := List.dropWhile_eq_nil_iff.2 hblank
    rw [trim, hstart]
    rfl

theorem trimmed_padded {before after : String} (hbefore : allBlank before = true)
    (hafter : allBlank after = true) (s : String) : trimmed (before ++ s ++ after) = trimmed s := by
  have hpadded := trim_padded (List.all_eq_true.1 hbefore) (List.all_eq_true.1 hafter) s.toList
  rw [trimmed, String.toList_append, String.toList_append, List.append_assoc, hpadded, trimmed]

/-- Values that no reader of settings tells apart. -/
inductive Alike : Json → Json → Prop
  | same (j : Json) : Alike j j
  | absent {j j' : Json} (h : isAbsent j = true) (h' : isAbsent j' = true) : Alike j j'
  | padded {s s' : String} (h : trimmed s = trimmed s') : Alike (.text s) (.text s')

theorem isAbsent_text_iff {s : String} : isAbsent (.text s) = true ↔ trimmed s = "" :=
  trimmed_eq_empty_iff.symm

theorem Alike.trans {i j k : Json} (hij : Alike i j) (hjk : Alike j k) : Alike i k := by
  cases hij with
  | same => exact hjk
  | absent hi hj =>
    cases hjk with
    | same => exact .absent hi hj
    | absent _ hk => exact .absent hi hk
    | padded htrim =>
      rw [isAbsent_text_iff, htrim] at hj
      exact .absent hi (isAbsent_text_iff.2 hj)
  | padded htrim =>
    cases hjk with
    | same => exact .padded htrim
    | absent hj hk =>
      rw [isAbsent_text_iff, ← htrim] at hj
      exact .absent (isAbsent_text_iff.2 hj) hk
    | padded htrim' => exact .padded (htrim.trans htrim')

/-- What blanks may do to a variable: one that is blank is taken away, one is added that is blank,
or blanks are put around a value. -/
inductive Blanked : Option Json → Option Json → Prop
  | removed {s : String} (h : allBlank s = true) : Blanked (some (.text s)) none
  | added {s : String} (h : allBlank s = true) : Blanked none (some (.text s))
  | padded {before after : String} (s : String) (hbefore : allBlank before = true)
      (hafter : allBlank after = true) :
      Blanked (some (.text s)) (some (.text (before ++ s ++ after)))

/-- An environment, and what it becomes when blanks do something to one of its variables. -/
def Edit (env env' : Environment) : Prop :=
  ∃ name, Blanked (Json.get? name env) (Json.get? name env') ∧
    ∀ other, other ≠ name → Json.get? other env' = Json.get? other env

theorem Blanked.alike {v v' : Option Json} (h : Blanked v v') :
    Alike (v.getD .null) (v'.getD .null) := by
  cases h with
  | removed h => exact .absent h rfl
  | added h => exact .absent rfl h
  | padded s hbefore hafter => exact .padded (trimmed_padded hbefore hafter s).symm

theorem Edit.alike {env env' : Environment} (h : Edit env env') (name : String) :
    Alike (valueOf env name) (valueOf env' name) := by
  obtain ⟨edited, hblanked, hothers⟩ := h
  by_cases hname : name = edited
  · rw [hname]
    exact hblanked.alike
  · rw [valueOf, valueOf, hothers name hname]
    exact .same _

theorem alike_of_edits {env env' : Environment} (h : Relation.ReflTransGen Edit env env')
    (name : String) : Alike (valueOf env name) (valueOf env' name) := by
  induction h with
  | refl => exact .same _
  | tail hbefore hedit ih => exact ih.trans (hedit.alike name)

theorem comma_notMem {cs : List Char} (h : Blank cs) : ',' ∉ cs := by
  intro hmem
  have hcomma : isBlank ',' = false := by decide
  rw [h ',' hmem] at hcomma
  cases hcomma

/-- Blanks around a list reach its first and its last part only. -/
theorem map_trim_splitOn {before after : List Char} (hbefore : Blank before) (hafter : Blank after)
    (cs : List Char) :
    ((before ++ (cs ++ after)).splitOn ',').map trim = (cs.splitOn ',').map trim := by
  -- by induction on the parts, the first of which has the blanks before the list
  induction hlength : cs.length using Nat.strong_induction_on generalizing before cs with
  | _ n ih =>
    by_cases hcomma : ',' ∈ cs
    · obtain ⟨first, rest, hcs, hfirst⟩ := List.eq_append_cons_of_mem hcomma
      have hshort : rest.length < n := by
        rw [← hlength, hcs, List.length_append, List.length_cons]
        omega
      have hrest := ih rest.length hshort blank_nil rest rfl
      have hpart : ',' ∉ before ++ first := by
        rw [List.mem_append, not_or]
        exact ⟨comma_notMem hbefore, hfirst⟩
      have htrim := trim_padded hbefore blank_nil first
      rw [List.append_nil] at htrim
      rw [hcs, List.append_assoc, List.cons_append, ← List.append_assoc,
        List.splitOn_append_cons_self, List.splitOn_append_cons_self,
        List.splitOn_eq_singleton hpart, List.splitOn_eq_singleton hfirst]
      simp only [List.map_append, List.map_cons, List.map_nil, htrim]
      exact congrArg _ hrest
    · have hwhole : ',' ∉ before ++ (cs ++ after) := by
        simp only [List.mem_append, not_or]
        exact ⟨comma_notMem hbefore, hcomma, comma_notMem hafter⟩
      rw [List.splitOn_eq_singleton hwhole, List.splitOn_eq_singleton hcomma]
      simp only [List.map_cons, List.map_nil, trim_padded hbefore hafter]

/-- The flags that a text lists. -/
def flagsOf (s : String) : List String :=
  (((s.toList.splitOn ',').map String.ofList).map trimmed).filter (· ≠ "")

theorem flagsOf_trimmed (s : String) : flagsOf (trimmed s) = flagsOf s := by
  obtain ⟨before, after, hs, hbefore, hafter⟩ := exists_trim s.toList
  have hparts := map_trim_splitOn hbefore hafter (trim s.toList)
  rw [← hs] at hparts
  have hmap : ∀ parts : List (List Char), (parts.map String.ofList).map trimmed =
      (parts.map trim).map String.ofList := by
    intro parts
    rw [List.map_map, List.map_map]
    apply List.map_congr_left
    intro part hpart
    simp only [Function.comp_apply, trimmed, String.toList_ofList]
  rw [flagsOf, flagsOf, hmap, hmap, hparts, trimmed, String.toList_ofList]

theorem textOrEmpty_text (operation s : String) :
    (Json.text s).textOrEmpty operation = .ok s := by
  by_cases hempty : s = ""
  · rw [hempty]
    rfl
  · have hholds : (Json.text s).holds = true := by simpa [Json.holds] using hempty
    rw [Json.textOrEmpty, if_pos hholds]
    rfl

theorem flags_of_text {env : Environment} {s : String}
    (h : valueOf env Fault.flagVariable = .text s) : flags env = .ok (flagsOf s) := by
  rw [flags, h, textOrEmpty_text]
  rfl

/-- Two readings that have the same outcome, but for the wording of a failure that names the same
setting. -/
inductive Concur {α : Type} : Except Failure α → Except Failure α → Prop
  | same (x : Except Failure α) : Concur x x
  | reworded (text text' : String) (setting : Json) :
      Concur (.error (.configuration text setting)) (.error (.configuration text' setting))

theorem Concur.bind {α β : Type} {x y : Except Failure α} {f g : α → Except Failure β}
    (h : Concur x y) (hf : ∀ a, Concur (f a) (g a)) : Concur (x >>= f) (y >>= g) := by
  cases h with
  | same =>
    cases x with
    | error e => exact .same (.error e)
    | ok a => exact hf a
  | reworded text text' setting => exact .reworded text text' setting

theorem text?_of_text {env : Environment} {name s : String} (h : valueOf env name = .text s) :
    text? env name = .ok (if trimmed s = "" then none else some (trimmed s)) := by
  rw [text?, h]
  rfl

theorem text?_of_isAbsent {env : Environment} {name : String}
    (h : isAbsent (valueOf env name) = true) : text? env name = .ok none := by
  cases hv : valueOf env name with
  | null =>
    rw [text?, hv]
    rfl
  | text s =>
    rw [hv] at h
    rw [text?_of_text hv, if_pos (isAbsent_text_iff.1 h)]
  | bool _ | int _ | float _ | list _ | object _ =>
    rw [hv] at h
    cases h

theorem flags_of_isAbsent {env : Environment}
    (h : isAbsent (valueOf env Fault.flagVariable) = true) : flags env = .ok [] := by
  cases hv : valueOf env Fault.flagVariable with
  | null =>
    rw [flags, hv]
    rfl
  | text s =>
    rw [hv] at h
    rw [flags_of_text hv, ← flagsOf_trimmed, isAbsent_text_iff.1 h]
    rfl
  | bool _ | int _ | float _ | list _ | object _ =>
    rw [hv] at h
    cases h

/-- A malformed duration is shown as it was given, blanks included. -/
theorem concur_ofSetting {j j' : Json} (h : Alike j j') (setting : Json) :
    Concur (Duration.ofSetting j setting) (Duration.ofSetting j' setting) := by
  cases h with
  | same => exact .same _
  | absent h h' =>
    rw [Duration.ofSetting_of_isAbsent h, Duration.ofSetting_of_isAbsent h']
    exact .same _
  | @padded s s' htrim =>
    by_cases h : isAbsent (.text s) = true
    · have h' : isAbsent (.text s') = true := by
        rw [isAbsent_text_iff, ← htrim]
        exact isAbsent_text_iff.1 h
      rw [Duration.ofSetting_of_isAbsent h, Duration.ofSetting_of_isAbsent h']
      exact .same _
    · have h' : isAbsent (.text s') ≠ true := by
        intro h'
        rw [isAbsent_text_iff, ← htrim] at h'
        exact h (isAbsent_text_iff.2 h')
      have hread : Duration.ofJson? (.text s) = Duration.ofJson? (.text s') := by
        rw [Duration.ofJson?, Duration.ofJson?, ← Duration.ofText?_trimmed, htrim,
          Duration.ofText?_trimmed]
      rw [Duration.ofSetting_of_not_isAbsent h, Duration.ofSetting_of_not_isAbsent h', hread]
      cases Duration.ofJson? (.text s') with
      | error f => exact .same _
      | ok ms =>
        cases ms with
        | none => exact .reworded _ _ setting
        | some ms => exact .same _

section Environments

variable {env env' : Environment} (h : ∀ name, Alike (valueOf env name) (valueOf env' name))

include h

theorem text?_of_alike (name : String) : text? env name = text? env' name := by
  have hname := h name
  generalize hv : valueOf env name = v at hname
  generalize hv' : valueOf env' name = v' at hname
  cases hname with
  | same => rw [text?, text?, hv, hv']
  | absent habsent habsent' =>
    rw [text?_of_isAbsent (hv ▸ habsent), text?_of_isAbsent (hv' ▸ habsent')]
  | padded htrim => rw [text?_of_text hv, text?_of_text hv', htrim]

theorem flags_of_alike : flags env = flags env' := by
  have hname := h Fault.flagVariable
  generalize hv : valueOf env Fault.flagVariable = v at hname
  generalize hv' : valueOf env' Fault.flagVariable = v' at hname
  cases hname with
  | same => rw [flags, flags, hv, hv']
  | absent habsent habsent' =>
    rw [flags_of_isAbsent (hv ▸ habsent), flags_of_isAbsent (hv' ▸ habsent')]
  | padded htrim =>
    rw [flags_of_text hv, flags_of_text hv', ← flagsOf_trimmed, htrim, flagsOf_trimmed]

theorem integer?_of_alike (name : String) : integer? env name = integer? env' name := by
  rw [integer?, integer?, text?_of_alike h]

theorem truth?_of_alike (name : String) : truth? env name = truth? env' name := by
  rw [truth?, truth?, text?_of_alike h]

theorem textField_of_alike (name source : String) :
    textField env name source = textField env' name source := by
  rw [textField, textField, text?_of_alike h]

theorem concur_duration (name : String) : Concur (duration? env name) (duration? env' name) :=
  concur_ofSetting (h name) (.text name)

theorem concur_recoveryMs : Concur (recoveryMs? env) (recoveryMs? env') := by
  have hduration := concur_duration h "EXTERNAL_API_RECOVERY_TIMEOUT"
  apply hduration.bind
  intro ms
  rw [integer?_of_alike h]
  exact .same _

theorem concur_breakerFields : Concur (breakerFields env) (breakerFields env') := by
  unfold breakerFields
  simp only [truth?_of_alike h, integer?_of_alike h]
  apply (concur_recoveryMs h).bind
  intro recovery
  exact .same _

theorem concur_environmentFields : Concur (environmentFields env) (environmentFields env') := by
  unfold environmentFields
  simp only [textField_of_alike h, integer?_of_alike h, flags_of_alike h, text?_of_alike h]
  apply (concur_breakerFields h).bind
  intro breaker
  -- the six settings that say how to reach a provider are texts
  iterate 6
    apply Concur.bind (.same _)
    intro field
  apply (concur_duration h "AI_REQUEST_TIMEOUT").bind
  intro timeout
  exact .same _

theorem concur_ofEnvironment (overrides : List (String × Json)) :
    Concur (ofEnvironment env overrides) (ofEnvironment env' overrides) := by
  apply (concur_environmentFields h).bind
  intro fields
  exact .same _

end Environments

/-- Without a duration of its own, the window's length is the number of seconds. -/
theorem recoveryMs?_eq (env : Environment) : recoveryMs? env =
    if isAbsent (valueOf env "EXTERNAL_API_RECOVERY_TIMEOUT") then
      (integer? env "EXTERNAL_API_RECOVERY_TIMEOUT_SECONDS").map (Option.map (· * 1000))
    else (duration? env "EXTERNAL_API_RECOVERY_TIMEOUT").map (Option.map Int.ofNat) := by
  rw [recoveryMs?, duration?]
  by_cases habsent : isAbsent (valueOf env "EXTERNAL_API_RECOVERY_TIMEOUT") = true
  · rw [if_pos habsent, Duration.ofSetting_of_isAbsent habsent]
    cases integer? env "EXTERNAL_API_RECOVERY_TIMEOUT_SECONDS" <;> rfl
  · rw [if_neg habsent, Duration.ofSetting_of_not_isAbsent habsent]
    rcases Duration.ofJson? (valueOf env "EXTERNAL_API_RECOVERY_TIMEOUT") with f | _ | ms <;> rfl

/-- Whatever blanks are put around values, and whatever blank variables are added or taken away, an
environment gives the same settings, or fails with the same setting named. A blank duration of the
open window leaves its length to the number of seconds, as one does that is not set. -/
theorem blanks_disregarded {env env' : Environment} (h : Relation.ReflTransGen Edit env env') :
    (∀ overrides, Concur (ofEnvironment env overrides) (ofEnvironment env' overrides)) ∧
    ∀ e, recoveryMs? e =
      if isAbsent (valueOf e "EXTERNAL_API_RECOVERY_TIMEOUT") then
        (integer? e "EXTERNAL_API_RECOVERY_TIMEOUT_SECONDS").map (Option.map (· * 1000))
      else (duration? e "EXTERNAL_API_RECOVERY_TIMEOUT").map (Option.map Int.ofNat) :=
  ⟨concur_ofEnvironment (alike_of_edits h), recoveryMs?_eq⟩

namespace Padding

/-- A blank duration of the open window beside a number of seconds. -/
def seconds : Environment :=
  [("GEMINI_API_KEY", .text "secret"), ("EXTERNAL_API_RECOVERY_TIMEOUT", .text " \t"),
    ("EXTERNAL_API_RECOVERY_TIMEOUT_SECONDS", .text "7")]

def unset : Environment :=
  [("GEMINI_API_KEY", .text "secret"), ("EXTERNAL_API_RECOVERY_TIMEOUT_SECONDS", .text "7")]

def padded : Environment :=
  [("GEMINI_API_KEY", .text "secret"), ("EXTERNAL_API_RECOVERY_TIMEOUT_SECONDS", .text " 7\n")]

def extended : Environment := ("METRICS_BACKEND", .text "\n") :: padded

theorem edits : Relation.ReflTransGen Edit seconds extended := by
  have hremoved : Edit seconds unset := by
    refine ⟨"EXTERNAL_API_RECOVERY_TIMEOUT", .removed (s := " \t") (by decide), ?_⟩
    intro other hother
    simp [seconds, unset, Json.get?, List.find?_cons, Ne.symm hother]
  have hpadded : Edit unset padded := by
    have hblanks : Blanked (some (.text "7")) (some (.text (" " ++ "7" ++ "\n"))) :=
      .padded "7" (by decide) (by decide)
    refine ⟨"EXTERNAL_API_RECOVERY_TIMEOUT_SECONDS", hblanks, ?_⟩
    intro other hother
    simp [unset, padded, Json.get?, List.find?_cons, Ne.symm hother]
  have hadded : Edit padded extended := by
    refine ⟨"METRICS_BACKEND", .added (s := "\n") (by decide), ?_⟩
    intro other hother
    simp [padded, extended, Json.get?, Ne.symm hother]
  exact .tail (.tail (.single hremoved) hpadded) hadded

theorem blanks_disregarded_seconds :
    Relation.ReflTransGen Edit seconds extended ∧
    ∃ s, ofEnvironment seconds [] = .ok s ∧ ofEnvironment extended [] = .ok s ∧
      s.breaker.recoveryMs.val = 7000 := by
  have hread : (ofEnvironment seconds []).toOption.map (fun s => s.breaker.recoveryMs.val) =
      some 7000 := by decide +kernel
  obtain ⟨s, hs, hms⟩ := Option.map_eq_some_iff.1 hread
  have hok : ofEnvironment seconds [] = .ok s := eq_ok_of_toOption hs
  have hconcur := (blanks_disregarded edits).1 []
  rw [hok] at hconcur
  refine ⟨edits, s, hok, ?_, hms⟩
  generalize ofEnvironment extended [] = read at hconcur
  cases hconcur with
  | same => rfl

end Padding

end ResilientCalls.Settings
