import SourceAtlas.Extract.View

/-! A pass looks at a file and at what earlier passes found, and only ever adds. -/

namespace SourceAtlas

structure Findings where
  symbols : List Symbol := []
  dependencies : List Dependency := []
  /-- Addresses of nodes and their names; of several names of one node the last counts. -/
  declared : List (List Nat × String) := []

namespace Findings

def append (first second : Findings) : Findings where
  symbols := first.symbols ++ second.symbols
  dependencies := first.dependencies ++ second.dependencies
  declared := first.declared ++ second.declared

instance : Append Findings := ⟨append⟩

def concat : List Findings → Findings
  | [] => {}
  | f :: fs => f ++ concat fs

def ofSymbols (symbols : List Symbol) : Findings := { symbols }

def ofDependencies (dependencies : List Dependency) : Findings := { dependencies }

def ofDeclared (names : List (Place × String)) : Findings :=
  { declared := names.map fun (p, name) => (p.address, name) }

def declaring (p : Place) (s : Symbol) : Findings := { symbols := [s], declared := [(p.address, s.name)] }

def ofDeclarations (items : List (Place × Symbol)) : Findings :=
  { symbols := items.map (·.2), declared := items.map fun (p, s) => (p.address, s.name) }

def nameOf? (f : Findings) (p : Place) : Option String :=
  (f.declared.reverse.find? (·.1 == p.address)).map (·.2)

/-- The name of the nearest declared node of one of the kinds above a place. Nodes of these kinds that are
not declared do not count. -/
def enclosing? (f : Findings) (kinds : List String) (p : Place) : Option String :=
  p.ancestors.findSome? fun q => if q.isAny kinds then f.nameOf? q else none

def firstNamed? (f : Findings) (kind : SymbolKind) : Option String :=
  (f.symbols.find? (·.kind == kind)).map (·.name)

end Findings

/-- A step of extraction: what it adds to what was found so far. -/
abbrev Pass := View → Findings → Findings

def Pass.runAll (passes : List Pass) (v : View) : Findings :=
  passes.foldl (fun found pass => found ++ pass v found) {}

structure CallSite where
  place : Place
  target : String

def callEdges (callers : List String) (found : Findings) (sites : List CallSite) : Findings :=
  .ofDependencies (sites.filterMap fun site =>
    (found.enclosing? callers site.place).map fun caller => .edge .call caller site.target)

end SourceAtlas
