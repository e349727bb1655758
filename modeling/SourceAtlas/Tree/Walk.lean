import SourceAtlas.Tree.Place

namespace SourceAtlas.Place

def load : List Place → Nat
  | [] => 0
  | p :: stack => p.node.size + load stack

theorem load_cons (p : Place) (stack : List Place) : load (p :: stack) = p.node.size + load stack := rfl

theorem load_append (first second : List Place) : load (first ++ second) = load first + load second := by
  induction first with
  | nil => exact (Nat.zero_add _).symm
  | cons p first ih => rw [List.cons_append, load_cons, load_cons, ih, Nat.add_assoc]

theorem load_siblings (above : List Frame) (before ns : List Node) :
    load (siblings above before ns) = Node.sizes ns := by
  induction ns generalizing before with
  | nil => rfl
  | cons n ns ih => rw [siblings, load_cons, ih, Node.sizes]

theorem load_filter_le (keep : Place → Bool) (stack : List Place) :
    load (stack.filter keep) ≤ load stack := by
  induction stack with
  | nil => exact Nat.le_refl _
  | cons p stack ih =>
    rw [List.filter_cons]
    split <;> simp only [load_cons] <;> omega

theorem load_kept_children_lt (keep : Node → Bool) (p : Place) :
    load (p.children.filter (keep ·.node)) < p.node.size := by
  have h := load_filter_le (keep ·.node) p.children
  rw [children, load_siblings] at h
  rw [Node.size_eq]
  exact Nat.lt_succ_of_le h

/-- Visits the places of a stack and, below each of them, the children that satisfy `keep`: a place first,
then what is below it, then the rest of the stack. -/
def walk (keep : Node → Bool) : List Place → List Place
  | [] => []
  | p :: stack => p :: walk keep (p.children.filter (keep ·.node) ++ stack)
termination_by stack => load stack
decreasing_by
  rw [load_append, load_cons]
  exact Nat.add_lt_add_right (load_kept_children_lt keep p) _

def descendants (p : Place) : List Place := walk (fun _ => true) [p]

/-- The named nodes of the given kinds at or below a place that can be reached through named nodes, in
document order. -/
def namedDescendants (p : Place) (kinds : List String) : List Place :=
  (walk (·.named) [p]).filter fun q => q.node.named && q.isAny kinds

def descendantOfKind? (p : Place) (kind : String) : Option Place := p.descendants.find? (·.kind == kind)

/-- The name at the end of a chain: from a node of one of the `path` kinds on to its last named child, until
a node of one of the `names` kinds is reached. -/
def trailingName? (path names : List String) (p : Place) : Option Place :=
  if p.isAny names then some p
  else if p.isAny path then
    match _last : p.lastNamedChild? with
    | some last => trailingName? path names last
    | none => none
  else none
termination_by p.node.size
decreasing_by exact size_lt_of_lastNamedChild? _last

end SourceAtlas.Place
