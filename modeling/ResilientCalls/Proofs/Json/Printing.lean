import Mathlib.Data.List.Nodup
import ResilientCalls.Json.Print
import ResilientCalls.Proofs.Json.Reading

namespace ResilientCalls

theorem CodePoints.ofString_injective : Function.Injective ofString :=
  Function.LeftInverse.injective toString_ofString

namespace Json

/-- A value without numbers, of at most so many levels of containers, in whose objects no name
stands twice. -/
inductive Verbal : Nat → Json → Prop where
  | null {n : Nat} : Verbal n .null
  | bool {n : Nat} (b : Bool) : Verbal n (.bool b)
  | text {n : Nat} (s : String) : Verbal n (.text s)
  | list {n : Nat} {items : List Json} (all : ∀ j ∈ items, Verbal n j) :
      Verbal (n + 1) (.list items)
  | object {n : Nat} {fields : List (String × Json)} (names : (fields.map (·.1)).Nodup)
      (all : ∀ f ∈ fields, Verbal n f.2) : Verbal (n + 1) (.object fields)

/-- What a reader makes of the text of a value. -/
def document (j : Json) : Document := j.map CodePoints.ofString

/-- A field in a document. -/
def documentField (f : String × Json) : CodePoints × Document :=
  (CodePoints.ofString f.1, f.2.document)

theorem document_list (items : List Json) :
    (Json.list items).document = .list (items.map document) := by
  have h : mapItems CodePoints.ofString items = items.map document := by
    induction items with
    | nil => rfl
    | cons j rest ih => rw [mapItems, ih]; rfl
  rw [document, map, h]

theorem document_object (fields : List (String × Json)) :
    (Json.object fields).document = .object (fields.map documentField) := by
  have h : mapFields CodePoints.ofString fields = fields.map documentField := by
    induction fields with
    | nil => rfl
    | cons f rest ih => rw [mapFields, ih]; rfl
  rw [document, map, h]

theorem nodup_documentField {fields : List (String × Json)} (h : (fields.map (·.1)).Nodup) :
    ((fields.map documentField).map (·.1)).Nodup := by
  have hnames : (fields.map documentField).map (·.1) =
      (fields.map (·.1)).map CodePoints.ofString := by
    rw [List.map_map, List.map_map]
    rfl
  rw [hnames]
  exact h.map CodePoints.ofString_injective

section Assignments

variable {α β : Type} [DecidableEq α]

theorem put_of_not_mem {name : α} {b : β} {fields : List (α × β)}
    (h : name ∉ fields.map (·.1)) : put name b fields = fields ++ [(name, b)] := by
  induction fields with
  | nil => rfl
  | cons f rest ih =>
    rw [List.map_cons, List.mem_cons, not_or] at h
    obtain ⟨n, c⟩ := f
    rw [put, if_neg (Ne.symm h.1), ih h.2]
    rfl

theorem ofAssignments_of_nodup {fields : List (α × β)} (h : (fields.map (·.1)).Nodup) :
    ofAssignments fields = fields := by
  induction fields using List.reverseRecOn with
  | nil => rfl
  | append_singleton rest f ih =>
    rw [List.map_append, List.nodup_append'] at h
    obtain ⟨hrest, -, hf⟩ := h
    have hnew : f.1 ∉ rest.map (·.1) := fun hmem => hf hmem (by simp)
    rw [ofAssignments, List.foldl_append]
    show put f.1 f.2 (ofAssignments rest) = _
    rw [ih hrest, put_of_not_mem hnew]

end Assignments

/-- How a character may be printed. -/
inductive Printed (c : Char) : List Char → Prop where
  | escaped (d : Char) (meaning : escaped? d = some c) : Printed c ['\\', d]
  | codeUnit (control : c.toNat < 0x20) :
      Printed c ('\\' :: 'u' :: Text.hexPadded 4 c.toNat)
  | plain (quote : c ≠ '"') (backslash : c ≠ '\\') (control : ¬ c.toNat < 0x20) : Printed c [c]

theorem printed_printedChar (c : Char) : Printed c (printedChar c) := by
  unfold printedChar
  split
  · exact .escaped _ (by rw [‹c = _›]; rfl)
  split
  · exact .escaped _ (by rw [‹c = _›]; rfl)
  split
  · exact .escaped _ (by rw [‹c = _›]; rfl)
  split
  · exact .escaped _ (by rw [‹c = _›]; rfl)
  split
  · exact .escaped _ (by rw [‹c = _›]; rfl)
  split
  · exact .escaped _ (by rw [‹c = _›]; rfl)
  split
  · exact .escaped _ (by rw [‹c = _›]; rfl)
  split
  · exact .codeUnit ‹_›
  · exact .plain ‹_› ‹_› ‹_›

/-- The next character of a string may be any. -/
def Escape.IsIdle (e : Escape) : Prop := e = .none ∨ ∃ place, e = .ended place

/-- Are blanks skipped before what is read next? -/
def Mode.skips : Mode → Bool
  | .string _ | .word .. | .number _ => false
  | _ => true

theorem hexValue?_hexDigit : ∀ n < 16, hexValue? (Text.hexDigit n) = some n := by decide

theorem hexPadded_of_lt {n : Nat} (h : n < 0x20) : Text.hexPadded 4 n =
    [Text.hexDigit 0, Text.hexDigit 0, Text.hexDigit (n / 16), Text.hexDigit (n % 16)] := by
  have h₂ : n / 16 / 16 = 0 := by omega
  have h₁ : n / 16 % 16 = n / 16 := by omega
  simp [Text.hexPadded, h₂, h₁]

namespace Reader

variable {r r' : Reader}

theorem run_cons_of_ok {p : CodePoint} {ps : CodePoints} (h : r.step p = .ok r') :
    r.run (p :: ps) = r'.run ps := by
  rw [run, h]

theorem run_append_of_ok {xs ys : CodePoints} (h : r.run xs = .ok r') :
    r.run (xs ++ ys) = r'.run ys := by
  induction xs generalizing r with
  | nil => rw [List.nil_append, Except.ok.inj h]
  | cons p xs ih =>
    obtain ⟨r₁, hstep, hrun⟩ := run_cons h
    rw [List.cons_append, run_cons_of_ok hstep, ih hrun]

variable {stack : List Frame} {room start place origin unit n : Nat} {purpose : Purpose}
  {e : Escape} {done : CodePoints} {c d : Char}

/-- The reader of a string in which no surrogate waits for its partner. -/
def within (stack : List Frame) (room start : Nat) (purpose : Purpose) (place : Nat) (e : Escape)
    (done : CodePoints) : Reader :=
  ⟨place, stack, room, .string ⟨start, purpose, done, e, none⟩⟩

theorem step_within_of_ok {e' : Escape} {done' : CodePoints} {p : CodePoint}
    (h : (within stack room start purpose place e done).stepString
      ⟨start, purpose, done, e, none⟩ p =
        .ok (within stack room start purpose place e' done')) :
    (within stack room start purpose place e done).step p =
      .ok (within stack room start purpose (place + 1) e' done') := by
  simp only [within] at h ⊢
  simp only [step, stepBetween, h]

theorem step_backslash (he : e.IsIdle) :
    (within stack room start purpose place e done).step (.char '\\') =
      .ok (within stack room start purpose (place + 1) (.backslash place) done) := by
  refine step_within_of_ok ?_
  rcases he with rfl | ⟨p, rfl⟩ <;> rfl

theorem step_plain (he : e.IsIdle) (hq : c ≠ '"') (hb : c ≠ '\\') (hc : ¬ c.toNat < 0x20) :
    (within stack room start purpose place e done).step (.char c) =
      .ok (within stack room start purpose (place + 1) .none (.char c :: done)) := by
  refine step_within_of_ok ?_
  rcases he with rfl | ⟨p, rfl⟩ <;>
    simp [stepString, CodePoint.toChar, hq, hb, hc, Literal.push, Literal.settle, within]

theorem step_escaped (hd : escaped? d = some c) :
    (within stack room start purpose place (.backslash origin) done).step (.char d) =
      .ok (within stack room start purpose (place + 1) .none (.char c :: done)) := by
  have hu : d ≠ 'u' := by
    rintro rfl
    cases hd
  refine step_within_of_ok ?_
  simp [stepString, CodePoint.toChar, hu, hd, Literal.push, Literal.settle, within]

theorem step_codeUnit :
    (within stack room start purpose place (.backslash origin) done).step (.char 'u') =
      .ok (within stack room start purpose (place + 1) (.codeUnit place 0 0) done) := rfl

theorem step_digit {digits : Nat} (hn : n < 16) (hd : digits ≠ 3) :
    (within stack room start purpose place (.codeUnit origin digits unit) done).step
        (.char (Text.hexDigit n)) =
      .ok (within stack room start purpose (place + 1)
        (.codeUnit origin (digits + 1) (16 * unit + n)) done) := by
  refine step_within_of_ok ?_
  simp [stepString, CodePoint.toChar, hexValue?_hexDigit n hn, hd, within]

theorem pushUnit_of_lt (h : unit < 0x20) :
    Literal.pushUnit ⟨start, purpose, done, e, none⟩ place unit =
      ⟨start, purpose, .char (Char.ofNat unit) :: done, .ended place, none⟩ := by
  have hhigh : isHigh unit = false := by
    simp only [isHigh, Bool.and_eq_false_iff, decide_eq_false_iff_not]
    omega
  have hcode : CodePoint.ofNat unit = .char (Char.ofNat unit) := by
    rw [CodePoint.ofNat, dif_neg]
    simp only [CodePoint.firstSurrogate]
    omega
  simp only [Literal.pushUnit, hhigh, hcode, Literal.push, Literal.settle, Bool.false_eq_true,
    if_false]

theorem step_lastDigit (hn : n < 16) (hu : 16 * unit + n < 0x20) :
    (within stack room start purpose place (.codeUnit origin 3 unit) done).step
        (.char (Text.hexDigit n)) =
      .ok (within stack room start purpose (place + 1) (.ended origin)
        (.char (Char.ofNat (16 * unit + n)) :: done)) := by
  refine step_within_of_ok ?_
  simp [stepString, CodePoint.toChar, hexValue?_hexDigit n hn, within, pushUnit_of_lt hu]

theorem run_printedChar (stack : List Frame) (room start : Nat) (purpose : Purpose) (place : Nat)
    (done : CodePoints) (he : e.IsIdle) (c : Char) : ∃ place' e',
    (within stack room start purpose place e done).run ((printedChar c).map .char) =
      .ok (within stack room start purpose place' e' (.char c :: done)) ∧ e'.IsIdle := by
  have h := printed_printedChar c
  generalize printedChar c = cs at h ⊢
  cases h with
  | escaped d hd =>
    have hrun : (within stack room start purpose place e done).run (['\\', d].map .char) =
        .ok (within stack room start purpose (place + 1 + 1) .none (.char c :: done)) := by
      rw [List.map_cons, run_cons_of_ok (step_backslash he)]
      exact run_cons_of_ok (step_escaped hd)
    exact ⟨_, _, hrun, .inl rfl⟩
  | codeUnit hc =>
    -- the digits that are read make up the code again
    have hunit : 16 * (16 * (16 * (16 * 0 + 0) + 0) + c.toNat / 16) + c.toNat % 16 = c.toNat := by
      omega
    have hrun : (within stack room start purpose place e done).run
        (('\\' :: 'u' :: Text.hexPadded 4 c.toNat).map .char) =
          .ok (within stack room start purpose (place + 1 + 1 + 1 + 1 + 1 + 1) (.ended (place + 1))
            (.char (Char.ofNat (16 * (16 * (16 * (16 * 0 + 0) + 0) + c.toNat / 16) +
              c.toNat % 16)) :: done)) := by
      simp only [hexPadded_of_lt hc, List.map_cons]
      rw [run_cons_of_ok (step_backslash he), run_cons_of_ok step_codeUnit,
        run_cons_of_ok (step_digit (by omega) (by omega)),
        run_cons_of_ok (step_digit (by omega) (by omega)),
        run_cons_of_ok (step_digit (by omega) (by omega))]
      exact run_cons_of_ok (step_lastDigit (by omega) (by omega))
    rw [hunit, Char.ofNat_toNat] at hrun
    exact ⟨_, _, hrun, .inr ⟨_, rfl⟩⟩
  | plain hq hb hc =>
    exact ⟨_, _, run_cons_of_ok (step_plain he hq hb hc), .inl rfl⟩

theorem run_printedChars (stack : List Frame) (room start : Nat) (purpose : Purpose) (place : Nat)
    (done : CodePoints) (he : e.IsIdle) (cs : List Char) : ∃ place' e',
    (within stack room start purpose place e done).run ((cs.flatMap printedChar).map .char) =
      .ok (within stack room start purpose place' e' ((cs.map .char).reverse ++ done)) ∧
        e'.IsIdle := by
  induction cs generalizing place e done with
  | nil => exact ⟨place, e, rfl, he⟩
  | cons c cs ih =>
    obtain ⟨place₁, e₁, hc, he₁⟩ := run_printedChar stack room start purpose place done he c
    obtain ⟨place₂, e₂, hcs, he₂⟩ := ih place₁ (.char c :: done) he₁
    refine ⟨place₂, e₂, ?_, he₂⟩
    rw [List.flatMap_cons, List.map_append, run_append_of_ok hc, hcs]
    simp

/-- From a reader, wherever it stands, a text leads to another one, wherever that stands. -/
def Leads (cs : List Char) (r r' : Nat → Reader) : Prop :=
  ∀ place, ∃ place', (r place).run (cs.map .char) = .ok (r' place')

section Leads

variable {r r' r'' : Nat → Reader} {xs ys : List Char}

theorem Leads.refl (r : Nat → Reader) : Leads [] r r := fun place => ⟨place, rfl⟩

theorem Leads.step (h : ∀ place, (r place).step (.char c) = .ok (r' (place + 1))) :
    Leads [c] r r' := fun place => ⟨place + 1, run_cons_of_ok (h place)⟩

theorem Leads.append (hxs : Leads xs r r') (hys : Leads ys r' r'') : Leads (xs ++ ys) r r'' := by
  intro place
  obtain ⟨place₁, hx⟩ := hxs place
  obtain ⟨place₂, hy⟩ := hys place₁
  exact ⟨place₂, by rw [List.map_append, run_append_of_ok hx, hy]⟩

theorem Leads.cons (h : ∀ place, (r place).step (.char c) = .ok (r' (place + 1)))
    (hxs : Leads xs r' r'') : Leads (c :: xs) r r'' := (Leads.step h).append hxs

end Leads

/-- The reader in a mode. -/
def being (stack : List Frame) (room : Nat) (m : Mode) (place : Nat) : Reader :=
  ⟨place, stack, room, m⟩

/-- The reader after a value, which is the next item of the innermost open container. -/
def past (stack : List Frame) (room : Nat) (v : Document) : Nat → Reader :=
  being (complete v stack).1 room (complete v stack).2

/-- The reader after the closing quote of a string. -/
def closed (stack : List Frame) (room : Nat) (content : CodePoints) : Purpose → Nat → Reader
  | .value => past stack room (.text content)
  | .name done => being stack room (.colon done content)

theorem step_quote (he : e.IsIdle) :
    (within stack room start purpose place e done).step (.char '"') =
      .ok (closed stack room done.reverse purpose (place + 1)) := by
  rcases he with rfl | ⟨p, rfl⟩ <;> cases purpose <;> rfl

theorem leads_printedText (purpose : Purpose) {r : Nat → Reader}
    (h : ∀ place, (r place).step (.char '"') =
      .ok (within stack room place purpose (place + 1) .none [])) (s : String) :
    Leads (printedText s) r (closed stack room (CodePoints.ofString s) purpose) := by
  intro place
  obtain ⟨place', e', hrun, he⟩ :=
    run_printedChars stack room place purpose (place + 1) [] (.inl rfl) s.toList
  refine ⟨place' + 1, ?_⟩
  rw [List.append_nil] at hrun
  rw [printedText, List.cons_append, List.map_cons, run_cons_of_ok (h place), List.map_append,
    run_append_of_ok hrun]
  refine (run_cons_of_ok (step_quote he)).trans ?_
  rw [List.reverse_reverse]
  rfl

theorem isSpace_newLine (indent : Nat) : ∀ c ∈ newLine indent, isSpace c = true := by
  intro c hc
  rcases List.mem_cons.1 hc with rfl | hc
  · rfl
  · rw [(List.mem_replicate.1 hc).2]
    rfl

theorem step_space {m : Mode} (hm : m.skips = true) (hc : isSpace c = true) (place : Nat) :
    (being stack room m place).step (.char c) = .ok (being stack room m (place + 1)) := by
  cases m with
  | string | word | number => cases hm
  | _ => simp [step, stepBetween, being, CodePoint.toChar, hc]

theorem leads_newLine {m : Mode} (hm : m.skips = true) (indent : Nat) :
    Leads (newLine indent) (being stack room m) (being stack room m) := by
  have hall := isSpace_newLine indent
  generalize newLine indent = cs at hall ⊢
  induction cs with
  | nil => exact Leads.refl _
  | cons c cs ih =>
    rw [List.forall_mem_cons] at hall
    exact Leads.cons (step_space hm hall.1) (ih hall.2)

/-- Where a value may begin, whatever is open and if there is room, a text is read as this one. -/
def ReadsAs (n : Nat) (cs : List Char) (v : Document) : Prop :=
  ∀ stack room, n ≤ room → Leads cs (being stack room .value) (past stack room v)

theorem readsAs_text (n : Nat) (s : String) : ReadsAs n (printedText s) (Json.text s).document :=
  fun _ _ _ => leads_printedText .value (fun _ => rfl) s

theorem leads_printedItems (stack : List Frame) {indent : Nat} {items : List Json} (hn : n ≤ room)
    (hall : ∀ j ∈ items, ReadsAs n (printed indent j) j.document) (done : List Document) :
    Leads (printedItems indent items) (being stack room (.afterItem done))
      (being stack room (.afterItem ((items.map document).reverse ++ done))) := by
  induction items generalizing done with
  | nil => exact Leads.refl _
  | cons j rest ih =>
    rw [List.forall_mem_cons] at hall
    have hcomma : Leads [','] (being stack room (.afterItem done))
        (being (.items done :: stack) room .value) := Leads.step fun _ => rfl
    have hj : Leads (printed indent j) (being (.items done :: stack) room .value)
        (being stack room (.afterItem (j.document :: done))) := hall.1 _ _ hn
    have hitems := ((hcomma.append (leads_newLine rfl indent)).append hj).append (ih hall.2 _)
    rw [List.map_cons, List.reverse_cons, List.append_assoc]
    exact hitems

theorem step_firstItem (hspace : isSpace c = false) (hc : c ≠ ']') (place : Nat) :
    (being stack room .firstItem place).step (.char c) =
      (being (.items [] :: stack) room .value place).step (.char c) := by
  simp only [step, stepBetween, being, CodePoint.toChar, hspace, hc, if_false, Bool.false_eq_true]
  rfl

/-- The first item of a list is read as a value if it does not begin with a blank or a bracket. -/
theorem Leads.firstItem {cs : List Char} {r : Nat → Reader} (hspace : isSpace c = false)
    (hc : c ≠ ']') (h : Leads (c :: cs) (being (.items [] :: stack) room .value) r) :
    Leads (c :: cs) (being stack room .firstItem) r := by
  intro place
  obtain ⟨place', hrun⟩ := h place
  refine ⟨place', ?_⟩
  rw [List.map_cons, run, step_firstItem hspace hc]
  exact hrun

/-- The characters that values without numbers may begin with. -/
def beginnings : List Char := ['n', 'f', 't', '"', '[', '\x7b']

theorem of_mem_beginnings {c : Char} (h : c ∈ beginnings) :
    isSpace c = false ∧ c ≠ ']' ∧ c ≠ '\uFEFF' := by
  have hall : beginnings.all (fun c => !isSpace c && c != ']' && c != '\uFEFF') = true := rfl
  simpa [and_assoc] using List.all_eq_true.1 hall c h

theorem printed_eq_cons {j : Json} (h : Verbal n j) (indent : Nat) :
    ∃ c cs, printed indent j = c :: cs ∧ c ∈ beginnings := by
  cases h with
  | null => exact ⟨'n', _, rfl, by decide⟩
  | bool b =>
    cases b with
    | false => exact ⟨'f', _, rfl, by decide⟩
    | true => exact ⟨'t', _, rfl, by decide⟩
  | text s => exact ⟨'"', _, rfl, by decide⟩
  | @list _ items _ => cases items <;> exact ⟨'[', _, rfl, by decide⟩
  | @object _ fields _ _ => cases fields <;> exact ⟨'\x7b', _, rfl, by decide⟩

theorem readsAs_list {indent : Nat} {items : List Json}
    (hhead : ∀ j ∈ items, ∃ c cs, printed (indent + 1) j = c :: cs ∧ c ∈ beginnings)
    (hall : ∀ j ∈ items, ReadsAs n (printed (indent + 1) j) j.document) :
    ReadsAs (n + 1) (printed indent (.list items)) (Json.list items).document := by
  intro stack room hroom
  -- the list takes up one level, and leaves the rest of the room to its items
  obtain ⟨room, rfl⟩ : ∃ k, room = k + 1 := ⟨room - 1, by omega⟩
  have hn : n ≤ room := by omega
  have hopen : Leads ['['] (being stack (room + 1) .value) (being stack room .firstItem) :=
    Leads.step fun _ => rfl
  rw [document_list]
  cases items with
  | nil =>
    have hclose : Leads [']'] (being stack room .firstItem) (past stack (room + 1) (.list [])) :=
      Leads.step fun _ => rfl
    exact hopen.append hclose
  | cons j rest =>
    rw [List.forall_mem_cons] at hhead hall
    obtain ⟨c, cs, hcs, hmem⟩ := hhead.1
    obtain ⟨hspace, hc, -⟩ := of_mem_beginnings hmem
    -- before the first item the list may still be closed, so its beginning is looked at
    have hj : Leads (printed (indent + 1) j) (being stack room .firstItem)
        (being stack room (.afterItem [j.document])) := by
      have h := hall.1 (.items [] :: stack) room hn
      rw [hcs] at h ⊢
      exact h.firstItem hspace hc
    have hitems := leads_printedItems stack hn hall.2 [j.document]
    have hdone : (rest.map document).reverse ++ [j.document] =
        ((j :: rest).map document).reverse := by simp
    rw [hdone] at hitems
    have hclose : Leads [']'] (being stack room (.afterItem ((j :: rest).map document).reverse))
        (past stack (room + 1) (.list ((j :: rest).map document))) := by
      refine Leads.step fun place => ?_
      show Except.ok (past stack (room + 1) (.list ((j :: rest).map document).reverse.reverse)
        (place + 1)) = _
      rw [List.reverse_reverse]
    rw [printed]
    exact ((((hopen.append (leads_newLine rfl _)).append hj).append hitems).append
      (leads_newLine rfl _)).append hclose

theorem leads_field (stack : List Frame) {indent : Nat} {m : Mode}
    {fields : List (CodePoints × Document)}
    (hm : ∀ place, (being stack room m place).step (.char '"') =
      .ok (within stack room place (.name fields) (place + 1) .none []))
    (hn : n ≤ room) (name : String) {j : Json}
    (hj : ReadsAs n (printed indent j) j.document) :
    Leads (printedText name ++ [':', ' '] ++ printed indent j) (being stack room m)
      (being stack room (.afterField (documentField (name, j) :: fields))) := by
  have hname : Leads (printedText name) (being stack room m)
      (being stack room (.colon fields (CodePoints.ofString name))) :=
    leads_printedText (.name fields) hm name
  have hspace : Leads [' '] (being (.member fields (CodePoints.ofString name) :: stack) room .value)
      (being (.member fields (CodePoints.ofString name) :: stack) room .value) :=
    Leads.step fun _ => rfl
  have hcolon : Leads [':', ' '] (being stack room (.colon fields (CodePoints.ofString name)))
      (being (.member fields (CodePoints.ofString name) :: stack) room .value) :=
    Leads.cons (fun _ => rfl) hspace
  exact (hname.append hcolon).append (hj _ _ hn)

theorem leads_printedFields (stack : List Frame) {indent : Nat} {fields : List (String × Json)}
    (hn : n ≤ room)
    (hall : ∀ f ∈ fields, ReadsAs n (printed indent f.2) f.2.document)
    (done : List (CodePoints × Document)) :
    Leads (printedFields indent fields) (being stack room (.afterField done))
      (being stack room (.afterField ((fields.map documentField).reverse ++ done))) := by
  induction fields generalizing done with
  | nil => exact Leads.refl _
  | cons f rest ih =>
    obtain ⟨name, j⟩ := f
    rw [List.forall_mem_cons] at hall
    have hcomma : Leads [','] (being stack room (.afterField done))
        (being stack room (.nextName done)) := Leads.step fun _ => rfl
    have hfield := leads_field stack (m := .nextName done) (fun _ => rfl) hn name hall.1
    have hfields := ((hcomma.append (leads_newLine rfl indent)).append hfield).append
      (ih hall.2 (documentField (name, j) :: done))
    have hprinted : printedFields indent ((name, j) :: rest) = [','] ++ newLine indent ++
        (printedText name ++ [':', ' '] ++ printed indent j) ++ printedFields indent rest := by
      simp [printedFields]
    have hdone : (((name, j) :: rest).map documentField).reverse ++ done =
        (rest.map documentField).reverse ++ documentField (name, j) :: done := by
      simp
    rw [hprinted, hdone]
    exact hfields

theorem readsAs_object {indent : Nat} {fields : List (String × Json)}
    (hnames : (fields.map (·.1)).Nodup)
    (hall : ∀ f ∈ fields, ReadsAs n (printed (indent + 1) f.2) f.2.document) :
    ReadsAs (n + 1) (printed indent (.object fields)) (Json.object fields).document := by
  intro stack room hroom
  obtain ⟨room, rfl⟩ : ∃ k, room = k + 1 := ⟨room - 1, by omega⟩
  have hn : n ≤ room := by omega
  have hopen : Leads ['\x7b'] (being stack (room + 1) .value) (being stack room .firstName) :=
    Leads.step fun _ => rfl
  rw [document_object]
  cases fields with
  | nil =>
    have hclose : Leads ['\x7d'] (being stack room .firstName)
        (past stack (room + 1) (.object [])) := Leads.step fun _ => rfl
    exact hopen.append hclose
  | cons f rest =>
    obtain ⟨name, j⟩ := f
    have hdistinct := nodup_documentField hnames
    rw [List.forall_mem_cons] at hall
    have hfield := leads_field stack (m := .firstName) (fun _ => rfl) hn name hall.1
    have hfields := leads_printedFields stack hn hall.2 [documentField (name, j)]
    have hdone : (rest.map documentField).reverse ++ [documentField (name, j)] =
        (((name, j) :: rest).map documentField).reverse := by
      simp
    rw [hdone] at hfields
    have hclose : Leads ['\x7d']
        (being stack room (.afterField (((name, j) :: rest).map documentField).reverse))
        (past stack (room + 1) (.object (((name, j) :: rest).map documentField))) := by
      refine Leads.step fun place => ?_
      -- no name is assigned twice, so the fields are kept in the order in which they were read
      show Except.ok (past stack (room + 1)
        (.object (ofAssignments (((name, j) :: rest).map documentField).reverse.reverse))
        (place + 1)) = _
      rw [List.reverse_reverse, ofAssignments_of_nodup hdistinct]
    have hprinted : printed indent (.object ((name, j) :: rest)) =
        ['\x7b'] ++ newLine (indent + 1) ++
          (printedText name ++ [':', ' '] ++ printed (indent + 1) j) ++
          printedFields (indent + 1) rest ++ newLine indent ++ ['\x7d'] := by
      simp [printed]
    rw [hprinted]
    exact ((((hopen.append (leads_newLine rfl _)).append hfield).append hfields).append
      (leads_newLine rfl _)).append hclose

theorem readsAs_printed {j : Json} (h : Verbal n j) (indent : Nat) :
    ReadsAs n (printed indent j) j.document := by
  induction h generalizing indent with
  | null => exact fun _ _ _ place => ⟨place + 4, rfl⟩
  | bool b =>
    cases b with
    | false => exact fun _ _ _ place => ⟨place + 5, rfl⟩
    | true => exact fun _ _ _ place => ⟨place + 4, rfl⟩
  | text s => exact readsAs_text _ s
  | list all ih =>
    exact readsAs_list (fun j hj => printed_eq_cons (all j hj) _) fun j hj => ih j hj _
  | object names all ih => exact readsAs_object names fun f hf => ih f hf _

end Reader

open Reader

/-- What is written is read as the value that was written. -/
theorem decode_print [Depth] {j : Json} (h : Verbal Depth.most j) :
    decode (CodePoints.ofString j.print) = .ok j.document := by
  obtain ⟨c, cs, hcs, hmem⟩ := printed_eq_cons h 0
  obtain ⟨place, hrun⟩ := readsAs_printed h 0 [] Depth.most le_rfl 0
  have hread : read ((printed 0 j).map .char) = .ok j.document := by
    rw [read, show start = being [] Depth.most .value 0 from rfl, hrun]
    rfl
  have hmark : CodePoint.char c ≠ .char '\uFEFF' := by
    simpa using (of_mem_beginnings hmem).2.2
  rw [CodePoints.ofString, print, String.toList_ofList]
  rw [hcs] at hread ⊢
  rw [List.map_cons] at hread ⊢
  unfold decode
  split
  · next heq => exact absurd (List.cons.inj heq).1 hmark
  · exact hread

end Json

end ResilientCalls
