import SourceAtlas.Tree.Node

/-! A place is a node together with its earlier siblings and the nodes above it, so that one can look around from it.
-/

namespace SourceAtlas

/-- A node among its siblings: those before it, the nearest first. -/
structure Frame where
  node : Node
  before : List Node

structure Place where
  node : Node
  before : List Node
  above : List Frame

namespace Place

def ofRoot (root : Node) : Place := ⟨root, [], []⟩

def kind (p : Place) : String := p.node.kind

def isAny (p : Place) (kinds : List String) : Bool := kinds.contains p.node.kind

def parent? (p : Place) : Option Place :=
  match p.above with
  | [] => none
  | frame :: above => some ⟨frame.node, frame.before, above⟩

def ofFrames : List Frame → List Place
  | [] => []
  | frame :: above => ⟨frame.node, frame.before, above⟩ :: ofFrames above

def ancestors (p : Place) : List Place := ofFrames p.above

def earlier (p : Place) : List Place := go p.before
where
  go : List Node → List Place
    | [] => []
    | n :: ns => ⟨n, ns, p.above⟩ :: go ns

def siblings (above : List Frame) : (before : List Node) → List Node → List Place
  | _, [] => []
  | before, n :: ns => ⟨n, before, above⟩ :: siblings above (n :: before) ns

def children (p : Place) : List Place := siblings (⟨p.node, p.before⟩ :: p.above) [] p.node.children

def namedChildren (p : Place) : List Place := p.children.filter (·.node.named)

def lastNamedChild? (p : Place) : Option Place := p.namedChildren.getLast?

def childOfKind? (p : Place) (kind : String) : Option Place := p.children.find? (·.kind == kind)

def childOfKinds? (p : Place) (kinds : List String) : Option Place := p.children.find? (·.isAny kinds)

def hasChild (p : Place) (kind : String) : Bool := p.children.any (·.kind == kind)

def childByField? (p : Place) (field : String) : Option Place := p.children.find? (·.node.field == some field)

def childrenByField (p : Place) (field : String) : List Place :=
  p.children.filter (·.node.field == some field)

def isInside (p : Place) (kinds : List String) : Bool := p.ancestors.any (·.isAny kinds)

def address (p : Place) : List Nat := (p.before.length :: p.above.map (·.before.length)).reverse

theorem node_mem_of_mem_siblings {above : List Frame} {before ns : List Node} {q : Place}
    (h : q ∈ siblings above before ns) : q.node ∈ ns := by
  induction ns generalizing before with
  | nil => cases h
  | cons n ns ih =>
    rw [siblings] at h
    rcases List.mem_cons.mp h with rfl | h
    · exact List.mem_cons_self
    · exact List.mem_cons_of_mem _ (ih h)

theorem size_lt_of_mem_children {p q : Place} (h : q ∈ p.children) : q.node.size < p.node.size :=
  Node.size_lt_of_mem_children (node_mem_of_mem_siblings h)

theorem size_lt_of_mem_namedChildren {p q : Place} (h : q ∈ p.namedChildren) : q.node.size < p.node.size :=
  size_lt_of_mem_children (List.mem_filter.mp h).1

theorem size_lt_of_childByField? {p q : Place} {field : String} (h : p.childByField? field = some q) :
    q.node.size < p.node.size :=
  size_lt_of_mem_children (List.mem_of_find?_eq_some h)

theorem size_lt_of_lastNamedChild? {p q : Place} (h : p.lastNamedChild? = some q) :
    q.node.size < p.node.size :=
  size_lt_of_mem_namedChildren (List.mem_of_getLast? h)

end Place

end SourceAtlas
