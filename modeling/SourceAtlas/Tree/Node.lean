namespace SourceAtlas

/-- What the grammar thinks of a node. `hasError` says that the node, or something below it, is broken; the
broken part need not be visible in the tree. -/
structure Marks where
  isError : Bool := false
  isMissing : Bool := false
  hasError : Bool := false
  deriving DecidableEq

structure Node where
  kind : String
  named : Bool
  field : Option String
  start : Nat
  stop : Nat
  marks : Marks
  children : List Node

namespace Node

mutual
def size : Node → Nat
  | ⟨_, _, _, _, _, _, children⟩ => sizes children + 1

def sizes : List Node → Nat
  | [] => 0
  | n :: ns => n.size + sizes ns
end

theorem size_eq (n : Node) : n.size = sizes n.children + 1 := by
  cases n
  rfl

theorem size_le_sizes {n : Node} {ns : List Node} (h : n ∈ ns) : n.size ≤ sizes ns := by
  induction ns with
  | nil => cases h
  | cons m ms ih =>
    rw [sizes]
    rcases List.mem_cons.mp h with rfl | h
    · exact Nat.le_add_right _ _
    · exact Nat.le_trans (ih h) (Nat.le_add_left _ _)

theorem size_lt_of_mem_children {n child : Node} (h : child ∈ n.children) : child.size < n.size := by
  rw [size_eq n]
  exact Nat.lt_succ_of_le (size_le_sizes h)

/-- One line of the listing of a tree, which gives the nodes in preorder with their numbers of children. -/
structure Row where
  kind : String
  named : Bool
  field : Option String
  start : Nat
  stop : Nat
  marks : Marks
  childCount : Nat

def pushRow (row : Row) (trees : List Node) : Option (List Node) :=
  if row.childCount ≤ trees.length then
    some (⟨row.kind, row.named, row.field, row.start, row.stop, row.marks, trees.take row.childCount⟩ ::
      trees.drop row.childCount)
  else none

def treesOfRows? : List Row → Option (List Node)
  | [] => some []
  | row :: rows => (treesOfRows? rows).bind (pushRow row)

def ofRows? (rows : List Row) : Option Node :=
  match treesOfRows? rows with
  | some [root] => some root
  | _ => none

end Node

end SourceAtlas
