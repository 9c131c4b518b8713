import ResilientCalls.Text.Blank

namespace ResilientCalls.Summary

open Text

def unavailable : String := "Summary is temporarily unavailable."

/-- How many sentences an extract has at most. -/
def extractSentences : Nat := 3

def isTerminator (c : Char) : Bool := c ∈ ['.', '!', '?', '。', '！', '？']

/-- Splits a text at the runs of blanks that follow a terminator. The sentence so far is `current`,
latest character first, and those before it are `done`. -/
def splitSentences (done : List (List Char)) (current : List Char) (between : Bool) :
    List Char → List (List Char)
  | [] => (current.reverse :: done).reverse
  | c :: rest =>
    if isBlank c && between then splitSentences done current true rest
    else if isBlank c && current.head?.any isTerminator then
      splitSentences (current.reverse :: done) [] true rest
    else splitSentences done (c :: current) false rest

/-- The sentences of a text. -/
def sentences (cs : List Char) : List (List Char) := splitSentences [] [] false cs

/-- How many characters an extract may have, for a summary of `maxLength` words. -/
def budget (maxLength : Int) : Nat := (max 100 (6 * maxLength)).toNat

/-- Cuts a text that is longer than `limit` so that an ellipsis fits. -/
def ellipsized (limit : Nat) (cs : List Char) : List Char :=
  if limit < cs.length then trimEnd (cs.take (limit - 1)) ++ ['…'] else cs

def joined (pieces : List (List Char)) : List Char := [' '].intercalate pieces

/-- The extract of a text. -/
def extract (text : String) (maxLength : Int) : String :=
  match trim text.toList with
  | [] => unavailable
  | cs =>
    String.ofList
      (ellipsized (budget maxLength) (joined ((sentences cs).take extractSentences)))

end ResilientCalls.Summary
