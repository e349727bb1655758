/-! Numbers written with digits only are natural numbers; every other number keeps its spelling, since nothing
computes with one. -/

namespace SourceAtlas

inductive Json where
  | null
  | bool (value : Bool)
  | nat (value : Nat)
  | decimal (spelling : String)
  | str (value : String)
  | arr (items : List Json)
  | obj (members : List (String × Json))

namespace Json

/-- The only member of an object with the given name; none if there are several. -/
def get? (name : String) : Json → Option Json
  | .obj members =>
    match members.filter (·.1 == name) with
    | [(_, value)] => some value
    | _ => none
  | _ => none

def str? : Json → Option String
  | .str value => some value
  | _ => none

def bool? : Json → Option Bool
  | .bool value => some value
  | _ => none

def nat? : Json → Option Nat
  | .nat value => some value
  | _ => none

def arr? : Json → Option (List Json)
  | .arr items => some items
  | _ => none

def strings? (value : Json) : Option (List String) := value.arr?.bind fun items => items.mapM str?

end Json

end SourceAtlas
