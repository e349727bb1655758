import SourceAtlas.Outline
import SourceAtlas.Pattern
import SourceAtlas.Source
import SourceAtlas.Text.Comment
import SourceAtlas.Text.Head

namespace SourceAtlas

structure View where
  path : Path
  language : Language
  source : Bytes
  root : Place

namespace View

/-- The text between two offsets; bytes that are not UTF-8 give an empty text. -/
def slice (v : View) (start stop : Nat) : String := (v.source.text? start stop).getD ""

def text? (v : View) (p : Place) : Option String := v.source.text? p.node.start p.node.stop

def text (v : View) (p : Place) : String := v.slice p.node.start p.node.stop

def chars (v : View) (p : Place) : List Char := (v.text p).toList

def collapsed (v : View) (p : Place) : String := String.ofList (Text.collapse (v.chars p))

def trimmed (v : View) (p : Place) : String := String.ofList (Text.trim (v.chars p))

def firstLine (v : View) (p : Place) : String := String.ofList (Text.firstLine (v.chars p))

def head (v : View) (p : Place) (keepSemicolon : Bool := false) : String :=
  String.ofList (Text.head keepSemicolon (v.chars p))

def colonHead (v : View) (p : Place) : String := String.ofList (Text.colonHead (v.chars p))

def headBeforeBody (v : View) (p : Place) : String :=
  let stop := ((p.childByField? "body").map (·.node.start)).getD p.node.stop
  String.ofList (Text.collapse (v.slice p.node.start stop).toList)

def bareName (v : View) (p : Place) : String := String.ofList (Text.dropGenerics (v.chars p))

def span (v : View) (p : Place) : Span := v.source.span p.node.start p.node.stop

def doc (v : View) (kinds : List String) (p : Place) : String :=
  let comments := (p.earlier.takeWhile (·.isAny kinds)).filterMap v.text?
  String.ofList (['\n'].intercalate (comments.reverse.map fun text => Text.cleanComment text.toList))

/-- The documentation right before a node or else before its parent, if the parent is of one of the kinds
`wrappers`. -/
def docThrough (v : View) (kinds wrappers : List String) (p : Place) : String :=
  let own := v.doc kinds p
  if own != "" then own
  else ((p.parent?.filter (·.isAny wrappers)).map (v.doc kinds)).getD ""

def findAll (v : View) (pattern : Pattern) (texts : List (String × String) := []) : List Match :=
  Query.matchesIn ⟨pattern, texts⟩ v.text v.root

def placesOf (v : View) (name : String) (pattern : Pattern) : List Place :=
  (v.findAll pattern).filterMap (·.place? name)

def symbol (v : View) (p : Place) (kind : SymbolKind) (name signature : String) (docstring : String := "")
    (children : List Symbol := []) : Symbol :=
  { name, kind, signature, span := v.span p, docstring, children }

end View

structure Definition where
  name : Place
  node : Place

namespace Definition

def pattern (kind nameKind : String) : Pattern :=
  (Pattern.ofKind kind [((Pattern.ofKind nameKind).inField "name").captured "name"]).captured "definition"

def ofMatch? (m : Match) : Option Definition :=
  match m.place? "name", m.place? "definition" with
  | some name, some node => some ⟨name, node⟩
  | _, _ => none

end Definition

def View.definitions (v : View) (pattern : Pattern) : List Definition :=
  (v.findAll pattern).filterMap Definition.ofMatch?

end SourceAtlas
