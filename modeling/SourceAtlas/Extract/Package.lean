import SourceAtlas.Extract.Findings
import SourceAtlas.Text.Find

/-! A file without a package declaration takes its package from the directories between a source root and the file. -/

namespace SourceAtlas.Package

def below? (root cs : List Char) : Option (List Char) :=
  ((Text.occurrences root cs).find? fun found => found.before.all (· == '/')).map (·.rest)

def ofDirectories (cs : List Char) : List Char :=
  ['.'].intercalate (cs.splitOn '/').dropLast

/-- The package that a path implies: the first of the roots that it goes through decides. -/
def infer (roots : List String) (p : Path) : String :=
  let cs := p.text.toList.map fun c => if c == '\\' then '/' else c
  String.ofList (((roots.findSome? fun root => below? root.toList cs).map ofDirectories).getD [])

def qualify (package name : String) : String := if package == "" then name else package ++ "." ++ name

def found (f : Findings) : String := (f.firstNamed? .packageName).getD ""

def inferred (roots : List String) (p : Path) : List Symbol :=
  let name := infer roots p
  if name == "" then [] else [{ name, kind := .packageName, signature := "package " ++ name, span := {} }]

end SourceAtlas.Package
