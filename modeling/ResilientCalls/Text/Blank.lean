namespace ResilientCalls.Text

/-- Inclusive ranges of the code points that count as blank. -/
def blankRanges : List (Nat × Nat) :=
  [(0x09, 0x0D), (0x1C, 0x20), (0x85, 0x85), (0xA0, 0xA0), (0x1680, 0x1680), (0x2000, 0x200A),
   (0x2028, 0x2029), (0x202F, 0x202F), (0x205F, 0x205F), (0x3000, 0x3000)]

def isBlank (c : Char) : Bool :=
  blankRanges.any fun r => r.1 ≤ c.toNat && c.toNat ≤ r.2

def trimStart (cs : List Char) : List Char := cs.dropWhile isBlank

def trimEnd (cs : List Char) : List Char := (cs.reverse.dropWhile isBlank).reverse

def trim (cs : List Char) : List Char := trimEnd (trimStart cs)

/-- The text without the blanks at its two ends. -/
def trimmed (s : String) : String := String.ofList (trim s.toList)

/-- A text is blank when trimming leaves nothing. -/
def allBlank (s : String) : Bool := s.toList.all isBlank

end ResilientCalls.Text
