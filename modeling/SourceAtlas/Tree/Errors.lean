import SourceAtlas.Source
import SourceAtlas.Tree.Node

namespace SourceAtlas.Node

def hasErrors (root : Node) : Bool := root.marks.hasError

mutual
/-- The node to blame: the first that is an error or missing, or the innermost that is known to be broken
without showing how. -/
def blamed? : Node → Option Node
  | n@⟨_, _, _, _, _, marks, children⟩ =>
    if marks.isError || marks.isMissing then some n
    else if marks.hasError then (firstBlamed? children).or (some n)
    else none

def firstBlamed? : List Node → Option Node
  | [] => none
  | n :: ns => n.blamed?.or (firstBlamed? ns)
end

def firstError? (source : Bytes) (root : Node) : Option (UInt32 × UInt32) :=
  root.blamed?.map fun n =>
    (UInt32.ofNat (source.position n.start).line + 1, UInt32.ofNat (source.position n.start).column + 1)

end SourceAtlas.Node
