import SourceAtlas.Path

namespace SourceAtlas

inductive ProblemKind where
  | parse
  | unsupportedLanguage
  | filesystem
  | cancelled
  deriving DecidableEq

namespace ProblemKind

def all : List ProblemKind := [.parse, .unsupportedLanguage, .filesystem, .cancelled]

def name : ProblemKind → String
  | .parse => "parse"
  | .unsupportedLanguage => "unsupported language"
  | .filesystem => "filesystem"
  | .cancelled => "cancelled"

def ofName? (s : String) : Option ProblemKind := all.find? (·.name == s)

def isInput (kind : ProblemKind) : Bool := kind == .parse || kind == .unsupportedLanguage

def isInternal (kind : ProblemKind) : Bool := kind == .filesystem || kind == .cancelled

end ProblemKind

inductive ParseFailure where
  | emptyContent
  | noTree
  | unsupportedLanguage (tag : String)
  deriving DecidableEq

def ParseFailure.message : ParseFailure → String
  | .emptyContent => "empty content"
  | .noTree => "parser produced no syntax tree"
  | .unsupportedLanguage tag => "unsupported language: " ++ tag

structure Problem where
  path : Path
  kind : ProblemKind
  message : String
  line : Option UInt32 := none
  column : Option UInt32 := none
  deriving DecidableEq

namespace Problem

def located (p : Problem) (line column : UInt32) : Problem :=
  { p with line := some line, column := some column }

def parse (path : Path) (message : String) : Problem := { path, kind := .parse, message }

def filesystem (path : Path) (cause : String) : Problem :=
  { path, kind := .filesystem, message := "failed to read file: " ++ cause }

def unsupportedLanguage (path : Path) (tag : String) : Problem :=
  { path, kind := .unsupportedLanguage,
    message := "unsupported language: " ++ if tag.isEmpty then "none" else tag }

def cancelled (path : Path) : Problem := { path, kind := .cancelled, message := "batch cancelled" }

/-- The problem on one line. The position is given only if both its parts are known. -/
def display (p : Problem) : String :=
  let place :=
    match p.line, p.column with
    | some line, some column => p.path.text ++ ":" ++ toString line ++ ":" ++ toString column
    | _, _ => p.path.text
  place ++ ": " ++ p.message ++ " (" ++ p.kind.name ++ ")"

end Problem

end SourceAtlas
