import SourceAtlas.Pattern
import SourceAtlas.Pattern.Vocabulary
import SourceAtlas.Text.Blank

/-! Patterns as text: `(kind child ...)` asks for a node of a kind, `(_)` for any named node, `[option ...]` for one
of several; `field:` in front restricts the field, `@name` behind captures, and `(#eq? @name "text")` among the
children compares a captured text. -/

namespace SourceAtlas.Query

inductive Token where
  | word (cs : List Char)
  | mark (c : Char)
  | quoted (cs : List Char)
  deriving DecidableEq

inductive Scan where
  | word (cs : List Char)
  | quoted (cs : List Char)

def marks : List Char := ['(', ')', '[', ']', ':']

def wordTokens (cs : List Char) : List Token := if cs.isEmpty then [] else [.word cs]

def scan : Scan → List Char → Option (List Token)
  | .word w, [] => some (wordTokens w)
  | .quoted _, [] => none
  | .quoted q, c :: cs =>
    if c == '"' then (scan (.word []) cs).map (.quoted q :: ·) else scan (.quoted (q ++ [c])) cs
  | .word w, c :: cs =>
    if Text.isBlank c then (scan (.word []) cs).map (wordTokens w ++ ·)
    else if c == '"' then (scan (.quoted []) cs).map (wordTokens w ++ ·)
    else if marks.contains c then (scan (.word []) cs).map (wordTokens w ++ .mark c :: ·)
    else scan (.word (w ++ [c])) cs

structure Items where
  patterns : List Pattern := []
  texts : List (String × String) := []

def Items.append (first second : Items) : Items :=
  ⟨first.patterns ++ second.patterns, first.texts ++ second.texts⟩

def Items.single (q : Query) : Items := ⟨[q.pattern], q.texts⟩

def readCapture (q : Query) : List Token → Query × List Token
  | .word ('@' :: name) :: rest => ({ q with pattern := q.pattern.captured (String.ofList name) }, rest)
  | rest => (q, rest)

mutual
def readPattern : Nat → List Token → Option (Query × List Token)
  | fuel + 1, .mark '(' :: .word kind :: rest =>
    (readItems fuel ')' rest).map fun (items, rest) =>
      let kind := if kind = ['_'] then none else some (String.ofList kind)
      readCapture ⟨.node none kind none items.patterns, items.texts⟩ rest
  | fuel + 1, .mark '[' :: rest =>
    (readItems fuel ']' rest).map fun (items, rest) => readCapture ⟨.either items.patterns, items.texts⟩ rest
  | _, _ => none

def readItems : Nat → Char → List Token → Option (Items × List Token)
  | fuel + 1, closing, .mark '(' :: .word ['#', 'e', 'q', '?'] :: .word ('@' :: name) :: .quoted text ::
      .mark ')' :: rest =>
    (readItems fuel closing rest).map fun (items, rest) =>
      (Items.append ⟨[], [(String.ofList name, String.ofList text)]⟩ items, rest)
  | fuel + 1, closing, .word field :: .mark ':' :: rest =>
    (readPattern fuel rest).bind fun (q, rest) =>
      (readItems fuel closing rest).map fun (items, rest) =>
        ((Items.single { q with pattern := q.pattern.inField (String.ofList field) }).append items, rest)
  | fuel + 1, closing, token :: rest =>
    if token = .mark closing then some ({}, rest)
    else
      (readPattern fuel (token :: rest)).bind fun (q, rest) =>
        (readItems fuel closing rest).map fun (items, rest) => ((Items.single q).append items, rest)
  | _, _, _ => none
end

def read? (text : String) : Option Query :=
  (scan (.word []) text.toList).bind fun tokens =>
    match readPattern (tokens.length + 1) tokens with
    | some (q, []) => some q
    | _ => none

inductive Failure where
  | empty
  | malformed
  deriving DecidableEq

def emptyMessage : String := "empty query pattern"

/-- The query that a text stands for. All kinds of nodes in it have to be kinds of the grammar. -/
def compile (grammar : Grammar) (text : String) : Except Failure Query :=
  if (Text.trim text.toList).isEmpty then .error .empty
  else
    match read? text with
    | some q => if q.pattern.kinds.all grammar.hasKind then .ok q else .error .malformed
    | none => .error .malformed

end SourceAtlas.Query
