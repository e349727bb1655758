import SourceAtlas.Dependency
import SourceAtlas.Language
import SourceAtlas.Symbol

namespace SourceAtlas

structure Outline where
  path : Path
  language : Language
  content : List UInt8 := []
  symbols : List Symbol := []
  dependencies : List Dependency := []

namespace Outline

/-- A symbol by its name: the first at the top level, else the first member of the first symbol that has
one of that name. -/
def find? (f : Outline) (name : String) : Option Symbol :=
  (f.symbols.find? (·.name == name)).or (f.symbols.findSome? (·.child? name))

def dependenciesOf (f : Outline) (kind : DependencyKind) : List Dependency :=
  f.dependencies.filter (·.kind == kind)

def hasEdge (f : Outline) (kind : DependencyKind) (source target : String) : Bool :=
  (f.dependenciesOf kind).any fun d => d.source == source && d.target == target

def addSymbol (f : Outline) (s : Symbol) : Outline := { f with symbols := f.symbols ++ [s] }

def addDependency (f : Outline) (d : Dependency) : Outline := { f with dependencies := f.dependencies ++ [d] }

def names (f : Outline) : List String := f.symbols.flatMap fun s => s.name :: s.children.map (·.name)

end Outline

end SourceAtlas
