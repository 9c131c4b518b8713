import ResilientCalls.Text.Blank

namespace ResilientCalls

/-- A character, or a surrogate by its distance from the first one. -/
inductive CodePoint where
  | char (c : Char)
  | surrogate (distance : Fin 0x800)
  deriving DecidableEq

/-- A text that need not be well formed. -/
abbrev CodePoints := List CodePoint

namespace CodePoint

instance : Coe Char CodePoint := ⟨.char⟩

def firstSurrogate : Nat := 0xD800

def ofNat (code : Nat) : CodePoint :=
  if h : firstSurrogate ≤ code ∧ code < firstSurrogate + 0x800 then
    .surrogate ⟨code - firstSurrogate, by omega⟩
  else .char (Char.ofNat code)

/-- Stands for a surrogate where a character is needed. -/
def replacement : Char := '\uFFFD'

def toChar : CodePoint → Char
  | .char c => c
  | .surrogate _ => replacement

end CodePoint

namespace CodePoints

def ofString (s : String) : CodePoints := s.toList.map .char

/-- The text with every surrogate replaced. -/
protected def toString (ps : CodePoints) : String := String.ofList (ps.map CodePoint.toChar)

theorem toString_ofString (s : String) : (ofString s).toString = s := by
  simp [ofString, CodePoints.toString, Function.comp_def, CodePoint.toChar]

theorem ofString_eq_nil_iff {s : String} : ofString s = [] ↔ s = "" := by
  rw [ofString, List.map_eq_nil_iff, String.toList_eq_nil_iff]

/-- The text without the blanks at its two ends. A surrogate is no blank. -/
def trim (ps : CodePoints) : CodePoints :=
  let isBlank := fun p : CodePoint => Text.isBlank p.toChar
  ((ps.dropWhile isBlank).reverse.dropWhile isBlank).reverse

end CodePoints

end ResilientCalls
