import SourceAtlas.Language
import SourceAtlas.Path
import SourceAtlas.Tree.Errors

/-! The files that extractions read: their bytes and the trees that grammars make of them. -/

namespace SourceAtlas

abbrev Location := List Path.Component

structure StoredFile where
  content : Bytes
  trees : List (Grammar × Node) := []

def StoredFile.tree? (f : StoredFile) (g : Grammar) : Option Node := (f.trees.find? (·.1 == g)).map (·.2)

inductive Entry where
  | file (f : StoredFile)
  | directory

inductive ReadFailure where
  | notFound
  | notDirectory
  | isDirectory
  | nameTooLong
  | nulInPath
  deriving DecidableEq

def ReadFailure.message : ReadFailure → String
  | .notFound => "No such file or directory (os error 2)"
  | .notDirectory => "Not a directory (os error 20)"
  | .isDirectory => "Is a directory (os error 21)"
  | .nameTooLong => "File name too long (os error 36)"
  | .nulInPath => "file name contained an unexpected NUL byte"

/-- The entries of a disk; the first one at a location counts. -/
structure Disk where
  entries : List (Location × Entry) := []

namespace Disk

def longestName : Nat := 255

def longestPath : Nat := 4095

def fits (name : String) : Bool := name.utf8ByteSize ≤ longestName

def entry? (d : Disk) (l : Location) : Option Entry :=
  if l = [] then some .directory else (d.entries.find? (·.1 == l)).map (·.2)

/-- What the pieces of a path lead to from a location, and where that is. Every piece asks for a directory
before it, so a path with a separator or a `.` at its end leads to a directory or nowhere. -/
def follow (d : Disk) : Location → List (List Char) → Except ReadFailure (Location × Entry)
  | here, [] =>
    match d.entry? here with
    | some entry => .ok (here, entry)
    | none => .error .notFound
  | here, piece :: pieces =>
    match d.entry? here with
    | none => .error .notFound
    | some (.file _) => .error .notDirectory
    | some .directory =>
      match Path.componentOf? piece with
      | none => d.follow here pieces
      | some (.normal name) =>
        if fits name then d.follow (here ++ [.normal name]) pieces else .error .nameTooLong
      | some _ => d.follow here.dropLast pieces

def find (d : Disk) (p : Path) : Except ReadFailure (Location × Entry) :=
  if p.text.toList.contains '\x00' then .error .nulInPath
  else if p.text.utf8ByteSize > longestPath then .error .nameTooLong
  else d.follow [] p.pieces

def read (d : Disk) (p : Path) : Except ReadFailure StoredFile :=
  match d.find p with
  | .ok (_, .file f) => .ok f
  | .ok (_, .directory) => .error .isDirectory
  | .error failure => .error failure

def isFile (d : Disk) (p : Path) : Bool := (d.read p).isOk

def add (d : Disk) (l : Location) (entry : Entry) : Disk := ⟨(l, entry) :: d.entries⟩

def reach? (d : Disk) : Location → List (List Char) → Option (Disk × Location)
  | here, [] => some (d, here)
  | here, piece :: pieces =>
    match Path.componentOf? piece with
    | none => d.reach? here pieces
    | some (.normal name) =>
      let there := here ++ [.normal name]
      match d.entry? there with
      | some .directory => d.reach? there pieces
      | some (.file _) => none
      | none => if fits name then (d.add there .directory).reach? there pieces else none
    | some _ => d.reach? here.dropLast pieces

/-- Makes the directory that a path names, and those above it, unless they are there. A path that ends in `.`
does not name a new one. -/
def makeDirectory? (d : Disk) (p : Path) : Option Disk :=
  match d.find p with
  | .ok (_, .directory) => some d
  | .error .notFound => if p.endsInDot then none else (d.reach? [] p.pieces).map (·.1)
  | _ => none

def create? (d : Disk) (p : Path) (f : StoredFile) : Option Disk :=
  match p.pieces.getLast?.bind Path.componentOf? with
  | some (.normal name) =>
    (d.reach? [] p.pieces.dropLast).bind fun (d, directory) =>
      match d.entry? (directory ++ [.normal name]) with
      | some .directory => none
      | _ => if fits name then some (d.add (directory ++ [.normal name]) (.file f)) else none
  | _ => none

def write? (d : Disk) (p : Path) (f : StoredFile) : Option Disk :=
  match d.find p with
  | .ok (l, .file _) => some (d.add l (.file f))
  | .error .notFound => d.create? p f
  | _ => none

def remove (d : Disk) (p : Path) : Disk :=
  match d.find p with
  | .ok (l, .file _) => ⟨d.entries.filter (·.1 != l)⟩
  | _ => d

end Disk

/-- A file to extract from: the path it goes by, the path at which it is found on the disk, and the name of
its language. -/
structure ScannedFile where
  path : Path
  diskPath : Path
  tag : String

end SourceAtlas
