import ResilientCalls.Proofs.Json.Nesting

namespace ResilientCalls.Json

/-- What may stand between the parts of a text. -/
def Space (ps : CodePoints) : Prop := ∀ p ∈ ps, Reader.isSpace p.toChar = true

/-- What may stand between the quotes of a string. -/
inductive Content : CodePoints → Prop
  | nil : Content []
  | plain {p : CodePoint} {ps : CodePoints} (hquote : p ≠ '"') (hescape : p ≠ '\\')
      (hcontrol : 0x20 ≤ p.toChar.toNat) (h : Content ps) : Content (p :: ps)
  | escape {c d : Char} {ps : CodePoints} (hc : escaped? c = some d) (h : Content ps) :
      Content ('\\' :: c :: ps)
  | codeUnit {digits ps : CodePoints} (hlength : digits.length = 4)
      (hdigits : ∀ p ∈ digits, (hexValue? p.toChar).isSome = true) (h : Content ps) :
      Content ('\\' :: 'u' :: (digits ++ ps))

inductive Quoted : CodePoints → Prop
  | mk {ps : CodePoints} (h : Content ps) : Quoted ('"' :: (ps ++ [.char '"']))

def Digits (ps : CodePoints) : Prop := ps ≠ [] ∧ ∀ p ∈ ps, p.toChar.isDigit = true

/-- Digits, of which the first is no zero unless it is the only one. -/
def WholePart (ps : CodePoints) : Prop :=
  ps = [.char '0'] ∨ Digits ps ∧ ps.head? ≠ some (.char '0')

def FractionPart (ps : CodePoints) : Prop :=
  ps = [] ∨ ∃ digits, Digits digits ∧ ps = .char '.' :: digits

def ExponentPart (ps : CodePoints) : Prop :=
  ps = [] ∨ ∃ (mark : Char) (sign digits : CodePoints), mark ∈ ['e', 'E'] ∧
    sign ∈ [[], [.char '+'], [.char '-']] ∧ Digits digits ∧ ps = .char mark :: (sign ++ digits)

inductive Decimal : CodePoints → Prop
  | mk {sign whole fraction exponent : CodePoints} (hsign : sign ∈ [[], [.char '-']])
      (hwhole : WholePart whole) (hfraction : FractionPart fraction)
      (hexponent : ExponentPart exponent) : Decimal (sign ++ (whole ++ (fraction ++ exponent)))

def words : List String := ["null", "true", "false", "NaN", "Infinity", "-Infinity"]

/-- What a text may be the text of. An item is a value with space around it, and a field has its
name before its item. -/
inductive Form where
  | value
  | object
  | item
  | items
  | field
  | fields

inductive Grammar : Form → CodePoints → Prop
  | word {w : String} (h : w ∈ words) : Grammar .value (.ofString w)
  | number {ps : CodePoints} (h : Decimal ps) : Grammar .value ps
  | text {ps : CodePoints} (h : Quoted ps) : Grammar .value ps
  | emptyArray {ps : CodePoints} (h : Space ps) : Grammar .value ('[' :: (ps ++ [.char ']']))
  | array {ps : CodePoints} (h : Grammar .items ps) : Grammar .value ('[' :: (ps ++ [.char ']']))
  | nested {ps : CodePoints} (h : Grammar .object ps) : Grammar .value ps
  | emptyObject {ps : CodePoints} (h : Space ps) :
      Grammar .object ('\x7b' :: (ps ++ [.char '\x7d']))
  | object {ps : CodePoints} (h : Grammar .fields ps) :
      Grammar .object ('\x7b' :: (ps ++ [.char '\x7d']))
  | item {before ps after : CodePoints} (hbefore : Space before) (h : Grammar .value ps)
      (hafter : Space after) : Grammar .item (before ++ (ps ++ after))
  | lastItem {ps : CodePoints} (h : Grammar .item ps) : Grammar .items ps
  | moreItems {ps rest : CodePoints} (h : Grammar .item ps) (hrest : Grammar .items rest) :
      Grammar .items (ps ++ .char ',' :: rest)
  | field {before name after ps : CodePoints} (hbefore : Space before) (hname : Quoted name)
      (hafter : Space after) (h : Grammar .item ps) :
      Grammar .field (before ++ (name ++ (after ++ .char ':' :: ps)))
  | lastField {ps : CodePoints} (h : Grammar .field ps) : Grammar .fields ps
  | moreFields {ps rest : CodePoints} (h : Grammar .field ps) (hrest : Grammar .fields rest) :
      Grammar .fields (ps ++ .char ',' :: rest)

/-- No code point means anything to a scan for braces. -/
def Unmarked (ps : CodePoints) : Prop := ∀ p ∈ ps, Reader.isMark p.toChar = false

instance (ps : CodePoints) : Decidable (Unmarked ps) :=
  inferInstanceAs (Decidable (∀ p ∈ ps, Reader.isMark p.toChar = false))

theorem Unmarked.append {ps qs : CodePoints} (hps : Unmarked ps) (hqs : Unmarked qs) :
    Unmarked (ps ++ qs) := by
  intro p hp
  rw [List.mem_append] at hp
  exact hp.elim (hps p) (hqs p)

theorem unmarked_cons {p : CodePoint} {ps : CodePoints} :
    Unmarked (p :: ps) ↔ Reader.isMark p.toChar = false ∧ Unmarked ps := List.forall_mem_cons

theorem Space.unmarked {ps : CodePoints} (h : Space ps) : Unmarked ps :=
  fun p hp => Reader.isMark_of_isSpace (h p hp)

theorem Digits.unmarked {ps : CodePoints} (h : Digits ps) : Unmarked ps := by
  intro p hp
  exact Reader.not_isMark (f := Char.isDigit) (by decide) (by decide) (by decide) (by decide)
    (h.2 p hp)

theorem WholePart.unmarked {ps : CodePoints} (h : WholePart ps) : Unmarked ps := by
  rcases h with rfl | ⟨hdigits, -⟩
  · decide
  · exact hdigits.unmarked

theorem FractionPart.unmarked {ps : CodePoints} (h : FractionPart ps) : Unmarked ps := by
  rcases h with rfl | ⟨digits, hdigits, rfl⟩
  · decide
  · exact unmarked_cons.2 ⟨by decide, hdigits.unmarked⟩

theorem ExponentPart.unmarked {ps : CodePoints} (h : ExponentPart ps) : Unmarked ps := by
  rcases h with rfl | ⟨mark, sign, digits, hmark, hsign, hdigits, rfl⟩
  · decide
  · have hmarks : ∀ c ∈ ['e', 'E'], Reader.isMark c = false :=
      List.forall_mem_cons.2 ⟨by decide, List.forall_mem_singleton.2 (by decide)⟩
    have hsigns : ∀ s ∈ ([[], [.char '+'], [.char '-']] : List CodePoints), Unmarked s := by decide
    exact unmarked_cons.2 ⟨hmarks mark hmark, (hsigns sign hsign).append hdigits.unmarked⟩

theorem Decimal.unmarked {ps : CodePoints} (h : Decimal ps) : Unmarked ps := by
  obtain ⟨hsign, hwhole, hfraction, hexponent⟩ := h
  have hsigns : ∀ s ∈ ([[], [.char '-']] : List CodePoints), Unmarked s := by decide
  have hrest := hwhole.unmarked.append (hfraction.unmarked.append hexponent.unmarked)
  exact (hsigns _ hsign).append hrest

theorem unmarked_word {w : String} (h : w ∈ words) : Unmarked (.ofString w) := by
  have hwords : ∀ w ∈ words, Unmarked (.ofString w) := by decide
  exact hwords w h

end ResilientCalls.Json
