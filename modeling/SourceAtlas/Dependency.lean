namespace SourceAtlas

inductive DependencyKind where
  | importing
  | call
  | inherits
  | implementing
  | conforms
  | overrides
  | annotatedWith
  | implementsDeclaration
  | implementsHeader
  | uses
  deriving DecidableEq

namespace DependencyKind

def all : List DependencyKind :=
  [.importing, .call, .inherits, .implementing, .conforms, .overrides, .annotatedWith,
   .implementsDeclaration, .implementsHeader, .uses]

def name : DependencyKind → String
  | .importing => "import"
  | .call => "call"
  | .inherits => "extends"
  | .implementing => "implements"
  | .conforms => "conforms"
  | .overrides => "overrides"
  | .annotatedWith => "annotated_with"
  | .implementsDeclaration => "implements_declaration"
  | .implementsHeader => "implements_header"
  | .uses => "uses"

def title : DependencyKind → String
  | .importing => "Import"
  | .call => "Call"
  | .inherits => "Extends"
  | .implementing => "Implements"
  | .conforms => "Conforms"
  | .overrides => "Overrides"
  | .annotatedWith => "AnnotatedWith"
  | .implementsDeclaration => "ImplementsDeclaration"
  | .implementsHeader => "ImplementsHeader"
  | .uses => "Uses"

end DependencyKind

/-- An edge from `source` to `target`. Imports have the imported module as target and say whether it comes
from outside the project. -/
structure Dependency where
  kind : DependencyKind
  source : String
  target : String
  targetModule : String := ""
  isExternal : Bool := false
  deriving DecidableEq

namespace Dependency

def edge (kind : DependencyKind) (source target : String) : Dependency := ⟨kind, source, target, "", false⟩

def ofImport (moduleName : String) (isExternal : Bool) (source : String := "") : Dependency :=
  ⟨.importing, source, moduleName, moduleName, isExternal⟩

def key (d : Dependency) : DependencyKind × String × String := (d.kind, d.source, d.target)

end Dependency

end SourceAtlas
