import SourceAtlas.Text.Split

/-! Two paths name the same file exactly if they have the same components: repeated and trailing separators do not
count, nor does a `.` other than one in front. -/

namespace SourceAtlas

structure Path where
  text : String
  deriving DecidableEq

namespace Path

inductive Component where
  | root
  | current
  | parent
  | normal (name : String)
  deriving DecidableEq

def pieces (p : Path) : List (List Char) := p.text.toList.splitOn '/'

def componentOf? (piece : List Char) : Option Component :=
  if piece = [] ∨ piece = ['.'] then none
  else if piece = ['.', '.'] then some .parent
  else some (.normal (String.ofList piece))

def components (p : Path) : List Component :=
  let steps := p.pieces.filterMap componentOf?
  match p.text.toList with
  | '/' :: _ => .root :: steps
  | _ => if p.pieces.head? = some ['.'] then .current :: steps else steps

/-- The components of the directory that a path is in. The root is in none, and the empty path names nothing. -/
def parentOf? (components : List Component) : Option (List Component) :=
  match components.getLast? with
  | none | some .root => none
  | some _ => some components.dropLast

def directory? (p : Path) : Option (List Component) := parentOf? p.components

def upward (directory : List Component) : List (List Component) := go directory.reverse
where
  /-- The last component stands first here. -/
  go : List Component → List (List Component)
    | [] => [[]]
    | .root :: rest => [(.root :: rest).reverse]
    | last :: rest => (last :: rest).reverse :: go rest

def Component.piece : Component → List Char
  | .root => []
  | .current => ['.']
  | .parent => ['.', '.']
  | .normal name => name.toList

def ofComponents (components : List Component) : Path :=
  ⟨String.ofList (['/'].intercalate (components.map Component.piece))⟩

def endsInName (p : Path) : Bool := p.pieces.getLast?.any fun piece => (componentOf? piece).isSome

def endsInDot (p : Path) : Bool := (p.pieces.filter (!·.isEmpty)).getLast? == some ['.']

def same (p q : Path) : Bool := p.components == q.components

def segments? (p : Path) : Option (List String) :=
  let names := p.components.mapM fun
    | .normal name => some name
    | _ => none
  names.filter (!·.isEmpty)

/-- The last segment, together with the pieces before it; there is none if the path ends in `..` or has no
segment at all. -/
def nameAndPieces? (p : Path) : Option (List Char × List (List Char)) :=
  match p.pieces.reverse.dropWhile fun piece => piece.isEmpty || piece == ['.'] with
  | [] => none
  | name :: earlier => if name = ['.', '.'] then none else some (name, earlier.reverse)

def name? (p : Path) : Option (List Char) := p.nameAndPieces?.map (·.1)

/-- A file name cut at its last dot. A name that starts with its only dot has no extension. -/
def cutName (name : List Char) : List Char × Option (List Char) :=
  let ext := (name.reverse.takeWhile (· != '.')).reverse
  let stem := name.take (name.length - ext.length - 1)
  if name.contains '.' && !stem.isEmpty then (stem, some ext) else (name, none)

def extension? (p : Path) : Option String :=
  p.name?.bind fun name => (cutName name).2.map String.ofList

/-- The path up to the stem of its last segment, followed by the extension `ext`; a path without a last
segment is left alone. -/
def setExtension (p : Path) (ext : String) : Path :=
  match p.nameAndPieces? with
  | none => p
  | some (name, earlier) =>
    ⟨String.ofList (['/'].intercalate (earlier ++ [(cutName name).1 ++ '.' :: ext.toList]))⟩

def dropExtension (p : Path) : Path :=
  match p.extension? with
  | none => p
  | some old => ⟨String.ofList (p.text.toList.take (p.text.length - old.length))⟩

def withExtension (p : Path) (ext : String) : Path := p.dropExtension.setExtension ext

def headerExtensions : List String := ["h", "hpp", "hh", "hxx"]

def isHeader (p : Path) : Bool := p.extension?.any headerExtensions.contains

end Path

end SourceAtlas
