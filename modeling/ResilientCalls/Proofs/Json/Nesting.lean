import ResilientCalls.Json.Reader
import ResilientCalls.StringMap.Balance
import ResilientCalls.StringMap.Fence

namespace ResilientCalls

theorem CodePoint.eq_of_toChar {p : CodePoint} {c : Char} (h : p.toChar = c)
    (hc : c ≠ replacement) : p = c := by
  cases p with
  | char d => exact congrArg CodePoint.char h
  | surrogate d => exact absurd h.symm hc

namespace Json

open StringMap (Context Scan tick)

/-- The container that a value is. -/
def container? {α : Type} : Json α → Option Container
  | .list _ => some .array
  | .object _ => some .object
  | _ => none

def Container.opening : Container → CodePoint
  | .array => '['
  | .object => '\x7b'

def Container.closing : Container → CodePoint
  | .array => ']'
  | .object => '\x7d'

def Frame.container : Frame → Container
  | .items _ => .array
  | .member .. => .object

def Purpose.container? : Purpose → Option Container
  | .value => none
  | .name _ => some .object

/-- The open container that is not on the stack. -/
def Mode.container? : Mode → Option Container
  | .firstItem | .afterItem _ => some .array
  | .firstName | .nextName _ | .colon .. | .afterField _ => some .object
  | .string s => s.purpose.container?
  | .value | .word .. | .number _ | .finished _ => none

def Mode.context : Mode → Context
  | .string s =>
    match s.escape with
    | .backslash _ => .escaped
    | _ => .quoted
  | _ => .outside

/-- What is read next stands between the items of an open container, in no string. -/
structure Mode.Between (m : Mode) (c : Container) : Prop where
  container : m.container? = some c
  context : m.context = .outside

namespace Reader

variable {r r' : Reader} {p : CodePoint}

/-- The open containers, innermost first. -/
def nesting (r : Reader) : List Container :=
  r.mode.container?.toList ++ r.stack.map Frame.container

/-- A word is made of letters and is no container, and nothing is open once the text is finished. -/
def Sane (r : Reader) : Prop :=
  match r.mode with
  | .word _ rest meaning => rest.all Char.isAlpha = true ∧ meaning.container? = none
  | .finished _ => r.stack = []
  | _ => True

/-- What a code point that is read does to the open containers. -/
inductive Turn (r : Reader) (p : CodePoint) (r' : Reader) : Prop where
  | opened (c : Container) (code : p = c.opening) (before : r.mode.context = .outside)
      (after : r'.mode.context = .outside) (nesting : r'.nesting = c :: r.nesting)
      (root : r.nesting = [] → r.mode = .value)
  | closed (c : Container) (v : Document) (code : p = c.closing)
      (before : r.mode.context = .outside) (after : r'.mode.context = .outside)
      (nesting : r.nesting = c :: r'.nesting) (kind : v.container? = some c)
      (root : r'.nesting = [] → r'.mode = .finished v)
  | kept (nesting : r'.nesting = r.nesting)
      (scan : ∀ depth, Scan.step ⟨depth, r.mode.context⟩ p = ⟨depth, r'.mode.context⟩)
      (unfenced : r.mode.context = .outside → p ≠ tick)
      (unbroken : r.mode.context ≠ .outside → p ≠ '\n')
      (root : r.nesting = [] → (r'.mode = .value → r.mode = .value ∧ isSpace p.toChar = true) ∧
        ∀ v, r'.mode = .finished v → r.mode = .finished v ∨ v.container? = none)

theorem nesting_complete (j : Document) (place room : Nat) (stack : List Frame) :
    nesting ⟨place, (complete j stack).1, room, (complete j stack).2⟩ =
      stack.map Frame.container := by
  rcases stack with _ | ⟨_ | _, rest⟩ <;> rfl

theorem context_complete (j : Document) (stack : List Frame) :
    (complete j stack).2.context = .outside := by
  rcases stack with _ | ⟨_ | _, rest⟩ <;> rfl

theorem sane_complete (j : Document) (place room : Nat) (stack : List Frame) :
    Sane ⟨place, (complete j stack).1, room, (complete j stack).2⟩ := by
  rcases stack with _ | ⟨_ | _, rest⟩ <;> trivial

theorem complete_ne_value (j : Document) (stack : List Frame) : (complete j stack).2 ≠ .value := by
  rcases stack with _ | ⟨_ | _, rest⟩ <;> exact Mode.noConfusion

theorem complete_ne_number (j : Document) (stack : List Frame) (n : Numeral) :
    (complete j stack).2 ≠ .number n := by
  rcases stack with _ | ⟨_ | _, rest⟩ <;> exact Mode.noConfusion

theorem eq_of_complete_finished {j v : Document} {stack : List Frame}
    (h : (complete j stack).2 = .finished v) : v = j ∧ stack = [] := by
  rcases stack with _ | ⟨_ | _, rest⟩
  · exact ⟨(Mode.finished.inj h).symm, rfl⟩
  · cases h
  · cases h

/-- The characters that mean something to a scan for braces or fences. -/
def isMark (c : Char) : Bool := c = '"' || c = '\x7b' || c = '\x7d' || c = '\x60'

theorem not_isMark {f : Char → Bool} (hq : f '"' = false) (ho : f '\x7b' = false)
    (hc : f '\x7d' = false) (ht : f '\x60' = false) {c : Char} (h : f c = true) :
    isMark c = false := by
  cases hmark : isMark c with
  | false => rfl
  | true =>
    simp only [isMark, Bool.or_eq_true, decide_eq_true_eq] at hmark
    rcases hmark with ((rfl | rfl) | rfl) | rfl
    · simp [hq] at h
    · simp [ho] at h
    · simp [hc] at h
    · simp [ht] at h

theorem scan_of_not_isMark (h : isMark p.toChar = false) (depth : Nat) :
    Scan.step ⟨depth, .outside⟩ p = ⟨depth, .outside⟩ := by
  have hne : ∀ c : Char, isMark c = true → p ≠ c := by
    rintro c hc rfl
    rw [CodePoint.toChar, hc] at h
    cases h
  simp [Scan.step, hne '"' (by decide), hne '\x7b' (by decide), hne '\x7d' (by decide)]

theorem Turn.of_not_isMark (h : isMark p.toChar = false) (nesting : r'.nesting = r.nesting)
    (before : r.mode.context = .outside) (after : r'.mode.context = .outside)
    (root : r.nesting = [] → (r'.mode = .value → r.mode = .value ∧ isSpace p.toChar = true) ∧
      ∀ v, r'.mode = .finished v → r.mode = .finished v ∨ v.container? = none) : Turn r p r' := by
  refine .kept nesting (fun depth => ?_) (fun _ => ?_) (absurd before) root
  · rw [before, after, scan_of_not_isMark h]
  · rintro rfl
    revert h
    decide

theorem isMark_of_isSpace {c : Char} (h : isSpace c = true) : isMark c = false :=
  not_isMark (f := isSpace) (by decide) (by decide) (by decide) (by decide) h

theorem turn_of_isSpace (h : isSpace p.toChar = true) (hout : r.mode.context = .outside) :
    Turn r p r :=
  .of_not_isMark (isMark_of_isSpace h) rfl hout hout fun _ => ⟨fun hv => ⟨hv, h⟩, fun _ => .inl⟩

theorem turn_descend {r₀ : Reader} {c : Container} {mode : Mode} (code : p = c.opening)
    (hout : r₀.mode.context = .outside) (hn : r₀.nesting = r.stack.map Frame.container)
    (hroot : r₀.nesting = [] → r₀.mode = .value) (hmode : mode = .firstItem ∨ mode = .firstName)
    (hc : mode.container? = some c) (h : descend r c mode = .ok r') : Turn r₀ p r' ∧ r'.Sane := by
  unfold descend at h
  split at h
  · cases h
  · obtain rfl := Except.ok.inj h
    have hafter : mode.context = .outside := by rcases hmode with rfl | rfl <;> rfl
    refine ⟨.opened c code hout hafter ?_ hroot, ?_⟩
    · simp [nesting, hc, ← hn]
    · rcases hmode with rfl | rfl <;> trivial

/-- What the first character of a value does, for a reader `r₀` that awaits a value of `r`. -/
theorem turn_stepValue {r₀ : Reader} (hout : r₀.mode.context = .outside)
    (hn : r₀.nesting = r.stack.map Frame.container) (hroot : r₀.nesting = [] → r₀.mode = .value)
    (h : stepValue r p.toChar = .ok r') : Turn r₀ p r' ∧ r'.Sane := by
  unfold stepValue at h
  extract_lets word number at h
  have hword : ∀ rest meaning, isMark p.toChar = false → rest.all Char.isAlpha = true →
      meaning.container? = none → word rest meaning = .ok r' → Turn r₀ p r' ∧ r'.Sane := by
    rintro rest meaning hmark hrest hmeaning ⟨⟩
    refine ⟨.of_not_isMark hmark hn.symm hout rfl fun _ => ?_, hrest, hmeaning⟩
    exact ⟨Mode.noConfusion, fun _ => Mode.noConfusion⟩
  have hnumber : ∀ part negative whole, isMark p.toChar = false →
      number part negative whole = .ok r' → Turn r₀ p r' ∧ r'.Sane := by
    rintro part negative whole hmark ⟨⟩
    refine ⟨.of_not_isMark hmark hn.symm hout rfl fun _ => ?_, trivial⟩
    exact ⟨Mode.noConfusion, fun _ => Mode.noConfusion⟩
  split at h
  · obtain rfl := Except.ok.inj h
    obtain rfl := CodePoint.eq_of_toChar ‹p.toChar = _› (by decide)
    refine ⟨.kept hn.symm (fun depth => ?_) (fun _ => by decide) (absurd hout) fun _ => ?_, trivial⟩
    · rw [hout]
      rfl
    · exact ⟨Mode.noConfusion, fun _ => Mode.noConfusion⟩
  · exact turn_descend (CodePoint.eq_of_toChar ‹_› (by decide)) hout hn hroot (.inl rfl) rfl h
  · exact turn_descend (CodePoint.eq_of_toChar ‹_› (by decide)) hout hn hroot (.inr rfl) rfl h
  · exact hword _ _ (by simp [*, isMark]) rfl rfl h
  · exact hword _ _ (by simp [*, isMark]) rfl rfl h
  · exact hword _ _ (by simp [*, isMark]) rfl rfl h
  · exact hword _ _ (by simp [*, isMark]) rfl rfl h
  · exact hword _ _ (by simp [*, isMark]) rfl rfl h
  · exact hnumber _ _ _ (by simp [*, isMark]) h
  · exact hnumber _ _ _ (by simp [*, isMark]) h
  · split at h
    · exact hnumber _ _ _ (not_isMark (f := Char.isDigit) rfl rfl rfl rfl ‹_›) h
    · cases h

theorem nesting_of_between {c : Container} (hm : r.mode.Between c) :
    r.nesting = c :: r.stack.map Frame.container := by
  rw [nesting, hm.container]
  rfl

theorem turn_ascend {c : Container} {v : Document} (code : p = c.closing) (hm : r.mode.Between c)
    (kind : v.container? = some c) : Turn r p (ascend r v) ∧ (ascend r v).Sane := by
  have hn : (ascend r v).nesting = r.stack.map Frame.container := nesting_complete ..
  refine ⟨.closed c v code hm.context (context_complete ..) ?_ kind fun hnil => ?_,
    sane_complete ..⟩
  · rw [hn, nesting_of_between hm]
  · rw [hn, List.map_eq_nil_iff] at hnil
    simp [ascend, hnil, complete]

theorem turn_separator {c : Container} (hmark : isMark p.toChar = false) (hm : r.mode.Between c)
    (hn : r'.nesting = r.nesting) (hout : r'.mode.context = .outside) (hs : r'.Sane) :
    Turn r p r' ∧ r'.Sane := by
  refine ⟨.of_not_isMark hmark hn hm.context hout fun hnil => ?_, hs⟩
  rw [nesting_of_between hm] at hnil
  cases hnil

theorem purpose_settle (s : Literal) : s.settle.purpose = s.purpose := by
  unfold Literal.settle
  split <;> rfl

theorem purpose_pushUnit (s : Literal) (place unit : Nat) :
    (s.pushUnit place unit).purpose = s.purpose := by
  unfold Literal.pushUnit Literal.push
  split
  · split
    · rfl
    · split <;> exact purpose_settle s
  · split
    · rfl
    · exact purpose_settle s

theorem context_string_ne (s : Literal) : (Mode.string s).context ≠ .outside := by
  unfold Mode.context
  dsimp only
  split <;> exact Context.noConfusion

theorem turn_endString {s : Literal} (hm : r.mode = .string s)
    (hquoted : r.mode.context = .quoted) :
    Turn r '"' (r.endString s) ∧ (r.endString s).Sane := by
  have hclose : ∀ {r' : Reader}, r'.nesting = r.nesting → r'.mode.context = .outside →
      (r.nesting = [] → r'.mode ≠ .value ∧ ∀ v, r'.mode = .finished v → v.container? = none) →
      Turn r '"' r' := by
    intro r' hn hout hroot
    refine .kept hn (fun depth => ?_) (fun _ => by decide) (fun _ => by decide) fun hnil => ?_
    · rw [hquoted, hout]
      rfl
    · exact ⟨fun hv => absurd hv (hroot hnil).1, fun v hv => .inr ((hroot hnil).2 v hv)⟩
  unfold endString
  split
  · refine ⟨hclose ?_ rfl fun _ => ?_, trivial⟩
    · simp [nesting, Mode.container?, Purpose.container?, *]
    · exact ⟨Mode.noConfusion, fun _ => Mode.noConfusion⟩
  · refine ⟨hclose ?_ (context_complete ..) fun _ => ?_, sane_complete ..⟩
    · rw [nesting_complete]
      simp [nesting, Mode.container?, Purpose.container?, *]
    · refine ⟨complete_ne_value _ _, fun v hv => ?_⟩
      rw [(eq_of_complete_finished hv).1]
      rfl

theorem turn_stepString {s : Literal} (hm : r.mode = .string s)
    (h : r.stepString s p = .ok r') : Turn r p r' ∧ r'.Sane := by
  unfold stepString at h
  extract_lets go c at h
  have hgo : ∀ t : Literal, .ok (go t) = (.ok r' : Except Refusal Reader) → t.purpose = s.purpose →
      (∀ depth, Scan.step ⟨depth, r.mode.context⟩ p = ⟨depth, (Mode.string t).context⟩) →
      p ≠ '\n' → Turn r p r' ∧ r'.Sane := by
    rintro t ⟨⟩ ht hscan hp
    refine ⟨.kept ?_ hscan (fun hout => ?_) (fun _ => hp) fun _ =>
      ⟨Mode.noConfusion, fun _ => Mode.noConfusion⟩, trivial⟩
    · simp [nesting, go, hm, Mode.container?, ht]
    · rw [hm] at hout
      exact absurd hout (context_string_ne s)
  have hquoted : (∀ place, s.escape ≠ .backslash place) → r.mode.context = .quoted := by
    intro hescape
    rw [hm]
    unfold Mode.context
    dsimp only
    split
    · exact absurd ‹_› (hescape _)
    · rfl
  have hne : ∀ {d : Char}, c ≠ d → p ≠ d := fun hc => by
    rintro rfl
    exact hc rfl
  split at h
  · -- an escape takes the next character with it, whatever it is
    have hescaped : ∀ t : Literal, (Mode.string t).context = .quoted →
        ∀ depth, Scan.step ⟨depth, r.mode.context⟩ p = ⟨depth, (Mode.string t).context⟩ := by
      intro t ht depth
      rw [ht, hm]
      simp [Mode.context, Scan.step, *]
    split at h
    · exact hgo _ h rfl (hescaped _ rfl) (hne (by simp [*]))
    · split at h
      · refine hgo _ h (purpose_settle s) (hescaped _ rfl) ?_
        rintro rfl
        cases ‹escaped? c = some _›
      · cases h
  · -- digits of an escape are neither quotes nor backslashes
    have hq := hquoted (by simp [*])
    split at h
    · cases h
    · have hdigit : ∀ {d : Char}, hexValue? d = none → p ≠ d := by
        rintro d hd rfl
        cases hd.symm.trans ‹hexValue? c = some _›
      have hscan : ∀ t : Literal, (Mode.string t).context = .quoted →
          ∀ depth, Scan.step ⟨depth, r.mode.context⟩ p = ⟨depth, (Mode.string t).context⟩ := by
        intro t ht depth
        rw [hq, ht]
        simp [Scan.step, hdigit (d := '"') rfl, hdigit (d := '\\') rfl]
      split at h
      · exact hgo _ h (purpose_pushUnit s _ _) (hscan _ rfl) (hdigit rfl)
      · exact hgo _ h rfl (hscan _ rfl) (hdigit rfl)
  · have hq := hquoted (by simpa using ‹∀ (place : Nat), _›)
    split at h
    · obtain rfl := Except.ok.inj h
      obtain rfl := CodePoint.eq_of_toChar ‹c = _› (by decide)
      exact turn_endString hm hq
    · split at h
      · refine hgo _ h rfl (fun depth => ?_) (hne (by simp [*]))
        rw [hq, CodePoint.eq_of_toChar ‹c = _› (by decide)]
        rfl
      · split at h
        · cases h
        · refine hgo _ h (purpose_settle s) (fun depth => ?_) ?_
          · rw [hq]
            simp [Scan.step, hne ‹¬c = '"'›, hne ‹¬c = '\\'›, Mode.context, Literal.push]
          · rintro rfl
            exact ‹¬c.toNat < 0x20› (by decide)

theorem turn_openName (done : List (CodePoints × Document)) (hm : r.mode.Between .object) :
    Turn r '"' (openString r (.name done)) ∧ (openString r (.name done)).Sane := by
  have hn := nesting_of_between hm
  refine ⟨.kept hn.symm (fun depth => ?_) (fun _ => by decide) (absurd hm.context) fun hnil => ?_,
    trivial⟩
  · rw [hm.context]
    rfl
  · rw [hn] at hnil
    cases hnil

section Between

variable (hs : r.Sane) (h : r.stepBetween p = .ok r')

include hs h

theorem turn_firstItem (hm : r.mode = .firstItem) : Turn r p r' ∧ r'.Sane := by
  have hbetween : r.mode.Between .array := by
    rw [hm]
    exact ⟨rfl, rfl⟩
  have hn := nesting_of_between hbetween
  simp only [stepBetween, hm] at h
  split at h
  · obtain rfl := Except.ok.inj h
    exact ⟨turn_of_isSpace ‹_› hbetween.context, hs⟩
  · split at h
    · obtain rfl := Except.ok.inj h
      exact turn_ascend (CodePoint.eq_of_toChar ‹_› (by decide)) hbetween rfl
    · have hopened : r.nesting
          = ({ r with stack := .items [] :: r.stack } : Reader).stack.map Frame.container := hn
      refine turn_stepValue hbetween.context hopened (fun hnil => ?_) h
      rw [hn] at hnil
      cases hnil

theorem turn_afterItem {done : List Document} (hm : r.mode = .afterItem done) :
    Turn r p r' ∧ r'.Sane := by
  have hbetween : r.mode.Between .array := by
    rw [hm]
    exact ⟨rfl, rfl⟩
  simp only [stepBetween, hm] at h
  split at h
  · obtain rfl := Except.ok.inj h
    exact ⟨turn_of_isSpace ‹_› hbetween.context, hs⟩
  · split at h
    · obtain rfl := Except.ok.inj h
      exact turn_separator (by simp [*, isMark]) hbetween (nesting_of_between hbetween).symm rfl
        trivial
    · split at h
      · obtain rfl := Except.ok.inj h
        exact turn_ascend (CodePoint.eq_of_toChar ‹_› (by decide)) hbetween rfl
      · cases h

theorem turn_firstName (hm : r.mode = .firstName) : Turn r p r' ∧ r'.Sane := by
  have hbetween : r.mode.Between .object := by
    rw [hm]
    exact ⟨rfl, rfl⟩
  simp only [stepBetween, hm] at h
  split at h
  · obtain rfl := Except.ok.inj h
    exact ⟨turn_of_isSpace ‹_› hbetween.context, hs⟩
  · split at h
    · obtain rfl := Except.ok.inj h
      obtain rfl := CodePoint.eq_of_toChar ‹p.toChar = _› (by decide)
      exact turn_openName [] hbetween
    · split at h
      · obtain rfl := Except.ok.inj h
        exact turn_ascend (CodePoint.eq_of_toChar ‹_› (by decide)) hbetween rfl
      · cases h

theorem turn_nextName {done : List (CodePoints × Document)} (hm : r.mode = .nextName done) :
    Turn r p r' ∧ r'.Sane := by
  have hbetween : r.mode.Between .object := by
    rw [hm]
    exact ⟨rfl, rfl⟩
  simp only [stepBetween, hm] at h
  split at h
  · obtain rfl := Except.ok.inj h
    exact ⟨turn_of_isSpace ‹_› hbetween.context, hs⟩
  · split at h
    · obtain rfl := Except.ok.inj h
      obtain rfl := CodePoint.eq_of_toChar ‹p.toChar = _› (by decide)
      exact turn_openName done hbetween
    · cases h

theorem turn_colon {done : List (CodePoints × Document)} {name : CodePoints}
    (hm : r.mode = .colon done name) : Turn r p r' ∧ r'.Sane := by
  have hbetween : r.mode.Between .object := by
    rw [hm]
    exact ⟨rfl, rfl⟩
  simp only [stepBetween, hm] at h
  split at h
  · obtain rfl := Except.ok.inj h
    exact ⟨turn_of_isSpace ‹_› hbetween.context, hs⟩
  · split at h
    · obtain rfl := Except.ok.inj h
      exact turn_separator (by simp [*, isMark]) hbetween (nesting_of_between hbetween).symm rfl
        trivial
    · cases h

theorem turn_afterField {done : List (CodePoints × Document)} (hm : r.mode = .afterField done) :
    Turn r p r' ∧ r'.Sane := by
  have hbetween : r.mode.Between .object := by
    rw [hm]
    exact ⟨rfl, rfl⟩
  simp only [stepBetween, hm] at h
  split at h
  · obtain rfl := Except.ok.inj h
    exact ⟨turn_of_isSpace ‹_› hbetween.context, hs⟩
  · split at h
    · obtain rfl := Except.ok.inj h
      exact turn_separator (by simp [*, isMark]) hbetween (nesting_of_between hbetween).symm rfl
        trivial
    · split at h
      · obtain rfl := Except.ok.inj h
        exact turn_ascend (CodePoint.eq_of_toChar ‹_› (by decide)) hbetween rfl
      · cases h

theorem turn_word {start : Nat} {rest : List Char} {meaning : Document}
    (hm : r.mode = .word start rest meaning) : Turn r p r' ∧ r'.Sane := by
  have hn : r.nesting = r.stack.map Frame.container := by simp [nesting, hm, Mode.container?]
  have hout : r.mode.context = .outside := by
    rw [hm]
    rfl
  rw [Sane, hm] at hs
  obtain ⟨hletters, hmeaning⟩ := hs
  simp only [stepBetween, hm] at h
  cases rest with
  | nil => cases h
  | cons d more =>
    rw [List.all_cons, Bool.and_eq_true] at hletters
    dsimp only at h
    split at h
    · cases h
    · have hd : p.toChar = d := by simpa using ‹¬p.toChar ≠ d›
      have hmark : isMark p.toChar = false :=
        not_isMark (f := Char.isAlpha) rfl rfl rfl rfl (hd ▸ hletters.1)
      split at h
      · obtain rfl := Except.ok.inj h
        refine ⟨.of_not_isMark hmark ((nesting_complete ..).trans hn.symm) hout
          (context_complete ..) fun _ => ?_, sane_complete ..⟩
        refine ⟨fun hv => absurd hv (complete_ne_value _ _), fun v hv => .inr ?_⟩
        rw [(eq_of_complete_finished hv).1, hmeaning]
      · obtain rfl := Except.ok.inj h
        refine ⟨.of_not_isMark hmark hn.symm hout rfl fun _ => ?_, hletters.2, hmeaning⟩
        exact ⟨Mode.noConfusion, fun _ => Mode.noConfusion⟩

theorem turn_stepBetween (hnumber : ∀ n, r.mode ≠ .number n) : Turn r p r' ∧ r'.Sane := by
  cases hm : r.mode with
  | value =>
    have hn : r.nesting = r.stack.map Frame.container := by simp [nesting, hm, Mode.container?]
    have hout : r.mode.context = .outside := by
      rw [hm]
      rfl
    simp only [stepBetween, hm] at h
    split at h
    · obtain rfl := Except.ok.inj h
      exact ⟨turn_of_isSpace ‹_› hout, hs⟩
    · exact turn_stepValue hout hn (fun _ => hm) h
  | firstItem => exact turn_firstItem hs h hm
  | afterItem done => exact turn_afterItem hs h hm
  | firstName => exact turn_firstName hs h hm
  | nextName done => exact turn_nextName hs h hm
  | colon done name => exact turn_colon hs h hm
  | afterField done => exact turn_afterField hs h hm
  | string s =>
    simp only [stepBetween, hm] at h
    exact turn_stepString hm h
  | word start rest meaning => exact turn_word hs h hm
  | number n => exact absurd hm (hnumber n)
  | finished v =>
    simp only [stepBetween, hm] at h
    split at h
    · obtain rfl := Except.ok.inj h
      exact ⟨turn_of_isSpace ‹_› (by rw [hm]; rfl), hs⟩
    · cases h

end Between

theorem container?_of_value {n : Numeral} {j : Document} (h : n.value = .ok j) :
    j.container? = none := by
  unfold Numeral.value at h
  split at h
  · split at h
    · cases h
    · obtain rfl := Except.ok.inj h
      rfl
  · obtain rfl := Except.ok.inj h
    rfl

/-- A number that ends has a value, which completes it. -/
theorem eq_of_endNumber {n : Numeral} (h : r.endNumber n = .ok r') :
    ∃ j, n.value = .ok j ∧
      r' = ⟨r.place, (complete j r.stack).1, r.room, (complete j r.stack).2⟩ := by
  unfold endNumber at h
  extract_lets close cut at h
  have hclose : close = .ok r' → ∃ j, n.value = .ok j ∧
      r' = ⟨r.place, (complete j r.stack).1, r.room, (complete j r.stack).2⟩ := by
    intro hr
    unfold close at hr
    cases hv : n.value with
    | error e =>
      rw [hv] at hr
      cases hr
    | ok j =>
      rw [hv] at hr
      exact ⟨j, rfl, (Except.ok.inj hr).symm⟩
  have hcut : ∀ place, cut place ≠ .ok r' := by
    intro place hr
    unfold cut at hr
    cases hc : close with
    | error e =>
      rw [hc] at hr
      cases hr
    | ok r₁ =>
      rw [hc] at hr
      cases hr
  split at h
  · cases h
  · exact absurd h (hcut _)
  · exact absurd h (hcut _)
  · exact absurd h (hcut _)
  · exact hclose h

theorem not_isMark_of_extend? {n m : Numeral} {place : Nat} {c : Char}
    (h : n.extend? place c = some m) : isMark c = false := by
  refine not_isMark (f := fun c => (n.extend? place c).isSome) ?_ ?_ ?_ ?_ (by simp [h])
  all_goals
    unfold Numeral.extend?
    cases n.part <;> rfl

theorem Turn.of_endNumber {j : Document} {place room : Nat}
    (h : Turn ⟨place, (complete j r.stack).1, room, (complete j r.stack).2⟩ p r')
    (hn : r.nesting = r.stack.map Frame.container) (hout : r.mode.context = .outside)
    (hj : j.container? = none) : Turn r p r' := by
  have hnesting : r.nesting =
      nesting ⟨place, (complete j r.stack).1, room, (complete j r.stack).2⟩ := by
    rw [nesting_complete, hn]
  have hcontext : r.mode.context = (complete j r.stack).2.context := by
    rw [context_complete, hout]
  cases h with
  | opened c code before after nesting root =>
    refine .opened c code hout after (by rw [nesting, hnesting]) fun hnil => ?_
    exact absurd (root (hnesting ▸ hnil)) (complete_ne_value _ _)
  | closed c v code before after nesting kind root =>
    exact .closed c v code hout after (by rw [hnesting, nesting]) kind root
  | kept nesting scan unfenced unbroken root =>
    refine .kept (by rw [nesting, hnesting]) (fun depth => ?_) (fun _ => unfenced ?_)
      (absurd hout) fun hnil => ?_
    · rw [hcontext]
      exact scan depth
    · exact context_complete ..
    · obtain ⟨hvalue, hfinished⟩ := root (hnesting ▸ hnil)
      refine ⟨fun hv => absurd (hvalue hv).1 (complete_ne_value _ _), fun v hv => .inr ?_⟩
      rcases hfinished v hv with hv | hv
      · rw [(eq_of_complete_finished hv).1, hj]
      · exact hv

/-- Everything that reading a code point does to the open containers. -/
theorem turn_step (hs : r.Sane) (h : r.step p = .ok r') : Turn r p r' ∧ r'.Sane := by
  unfold step at h
  extract_lets after at h
  have hafter : ∀ r₁, after = .ok r₁ → Turn r p r₁ ∧ r₁.Sane := by
    intro r₁ h₁
    unfold after at h₁
    split at h₁
    · rename_i n hm
      have hn : r.nesting = r.stack.map Frame.container := by simp [nesting, hm, Mode.container?]
      have hout : r.mode.context = .outside := by
        rw [hm]
        rfl
      split at h₁
      · obtain rfl := Except.ok.inj h₁
        refine ⟨.of_not_isMark (not_isMark_of_extend? ‹_›) hn.symm hout rfl fun _ => ?_, trivial⟩
        exact ⟨Mode.noConfusion, fun _ => Mode.noConfusion⟩
      · split at h₁
        · obtain rfl := Except.ok.inj h₁
          refine ⟨.of_not_isMark (by simp [*, isMark]) hn.symm hout rfl fun _ => ?_, ?_⟩
          · exact ⟨Mode.noConfusion, fun _ => Mode.noConfusion⟩
          · exact ⟨rfl, rfl⟩
        · split at h₁
          · rename_i r₂ hend
            obtain ⟨j, hj, rfl⟩ := eq_of_endNumber hend
            have hne : ∀ m, (complete j r.stack).2 ≠ .number m := fun m => complete_ne_number _ _ m
            obtain ⟨hturn, hsane⟩ := turn_stepBetween (sane_complete ..) h₁ hne
            exact ⟨hturn.of_endNumber hn hout (container?_of_value hj), hsane⟩
          · cases h₁
    · exact turn_stepBetween hs h₁ ‹_›
  generalize after = result at h hafter
  cases result with
  | error e => cases h
  | ok r₁ =>
    obtain rfl := Except.ok.inj h
    obtain ⟨hturn, hsane⟩ := hafter r₁ rfl
    refine ⟨?_, hsane⟩
    cases hturn with
    | opened c code before after nesting root => exact .opened c code before after nesting root
    | closed c v code before after nesting kind root =>
      exact .closed c v code before after nesting kind root
    | kept nesting scan unfenced unbroken root => exact .kept nesting scan unfenced unbroken root

end Reader

end Json

end ResilientCalls
