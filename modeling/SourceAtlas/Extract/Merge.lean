import SourceAtlas.Distinct
import SourceAtlas.Extraction

/-! Objective-C++ files, which two grammars each understand in part. -/

namespace SourceAtlas

def Symbol.key (s : Symbol) : SymbolKind × String := (s.kind, s.name)

namespace ObjCpp

def laterWins : SymbolKind → Bool
  | .classType | .interface | .implementation | .protocol | .category => true
  | _ => false

/-- Adds a symbol behind the others, unless there is one with its key; then it takes that one's place or is
dropped. -/
def insert (s : Symbol) : List Symbol → List Symbol
  | [] => [s]
  | t :: ts => if t.key = s.key then (if laterWins s.kind then s else t) :: ts else t :: insert s ts

def mergeSymbols (symbols : List Symbol) : List Symbol := symbols.foldl (fun merged s => insert s merged) []

def merge (cpp objc : Outline) : Outline where
  path := cpp.path
  language := .objCpp
  content := cpp.content
  symbols := mergeSymbols (cpp.symbols ++ objc.symbols)
  dependencies := distinctBy Dependency.key (cpp.dependencies ++ objc.dependencies)

/-- The outcome of two readings. If both grammars reject a part of the file, the first one's error is
reported. -/
def combine : Extraction → Extraction → Extraction
  | .complete cpp, .complete objc => .complete (merge cpp objc)
  | .complete cpp, _ => .complete cpp
  | _, .complete objc => .complete objc
  | .incomplete cpp problem, .incomplete objc _ => .incomplete (merge cpp objc) problem
  | cpp, _ => cpp

end ObjCpp

end SourceAtlas
