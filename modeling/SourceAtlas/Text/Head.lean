import SourceAtlas.Text.Split

/-! A brace opens a body; in prototypes a semicolon ends the head and belongs to it; where indentation delimits
bodies, a colon ends the head's last line. -/

namespace SourceAtlas.Text

/-- The part of a line that still belongs to the head, if the head ends on this line. -/
def cutHead (keepSemicolon : Bool) : List Char → Option (List Char)
  | [] => none
  | c :: cs =>
    if c == '\x7b' then some []
    else if keepSemicolon && c == ';' then some [c]
    else (cutHead keepSemicolon cs).map (c :: ·)

/-- The lines up to the one that ends the head, with a space after each full line. -/
def headLines (keepSemicolon : Bool) : List (List Char) → List Char
  | [] => []
  | line :: rest =>
    match cutHead keepSemicolon line with
    | some last => last
    | none => line ++ ' ' :: headLines keepSemicolon rest

def head (keepSemicolon : Bool) (cs : List Char) : List Char :=
  collapse (headLines keepSemicolon (lines cs))

def colonLines : List (List Char) → List Char
  | [] => []
  | line :: rest => if line.contains ':' then line else line ++ ' ' :: colonLines rest

def colonHead (cs : List Char) : List Char := trim (colonLines (lines cs))

def dropGenerics (cs : List Char) : List Char := trim (cs.takeWhile (· != '<'))

end SourceAtlas.Text
