namespace SourceAtlas.Text

def contains (pat : List Char) : List Char → Bool
  | [] => pat.isEmpty
  | c :: cs => pat.isPrefixOf (c :: cs) || contains pat cs

def beforeFirst (pat : List Char) : List Char → List Char
  | [] => []
  | c :: cs => if pat.isPrefixOf (c :: cs) then [] else c :: beforeFirst pat cs

def afterLast? (pat : List Char) : List Char → Option (List Char)
  | [] => if pat.isEmpty then some [] else none
  | c :: cs =>
    match afterLast? pat cs with
    | some rest => some rest
    | none => if pat.isPrefixOf (c :: cs) then some ((c :: cs).drop pat.length) else none

def afterLast (pat cs : List Char) : List Char := (afterLast? pat cs).getD cs

structure Occurrence where
  before : Option Char
  rest : List Char

/-- The occurrences of a text that is not empty, from left to right and without overlaps. The first `skip`
characters belong to an occurrence already found, and `before` is the character before the text. -/
def occurrencesFrom (pat : List Char) : (skip : Nat) → (before : Option Char) → List Char → List Occurrence
  | _, _, [] => []
  | skip + 1, _, c :: cs => occurrencesFrom pat skip (some c) cs
  | 0, before, c :: cs =>
    if pat.isPrefixOf (c :: cs) then
      ⟨before, (c :: cs).drop pat.length⟩ :: occurrencesFrom pat (pat.length - 1) (some c) cs
    else occurrencesFrom pat 0 (some c) cs

def occurrences (pat cs : List Char) : List Occurrence := occurrencesFrom pat 0 none cs

def closeUp (mark : Char) : List Char → List Char
  | [] => []
  | [c] => [c]
  | c :: d :: cs => if c == ' ' && d == mark then closeUp mark (d :: cs) else c :: closeUp mark (d :: cs)

end SourceAtlas.Text
