import SourceAtlas.Disk

/-! The module that a Go file belongs to: the one that the nearest `go.mod` declares. -/

namespace SourceAtlas

def moduleOfLine? (line : List Char) : Option String :=
  match Text.after? "module".toList (Text.trim line) with
  | none => none
  | some rest =>
    let name := Text.dropBoth (· == '"') (Text.trim rest)
    if rest.head?.any Text.isBlank && !name.isEmpty then some (String.ofList name) else none

def declaredModule? (text : String) : Option String := (Text.lines text.toList).findSome? moduleOfLine?

def goModPath (directory : List Path.Component) : Path := .ofComponents (directory ++ [.normal "go.mod"])

def moduleIn? (disk : Disk) (directory : List Path.Component) : Option String :=
  match disk.read (goModPath directory) with
  | .ok f => f.content.decode?.bind declaredModule?
  | .error _ => none

def findModule? (disk : Disk) (directory : List Path.Component) : Option String :=
  (Path.upward directory).findSome? (moduleIn? disk)

structure GoModules where
  known : List (List Path.Component × Option String) := []

/-- The module of a file. A path that is in no directory has none, and nothing is remembered then. -/
def GoModules.moduleFor (modules : GoModules) (disk : Disk) (file : Path) : Option String × GoModules :=
  match file.directory? with
  | none => (none, modules)
  | some directory =>
    match modules.known.find? (·.1 == directory) with
    | some (_, answer) => (answer, modules)
    | none =>
      let answer := findModule? disk directory
      (answer, ⟨(directory, answer) :: modules.known⟩)

end SourceAtlas
