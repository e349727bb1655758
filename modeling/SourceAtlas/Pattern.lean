import SourceAtlas.Tree.Walk

/-! A pattern asks for a named node whose children match further patterns in order, with other children in between,
and each way to match counts. -/

namespace SourceAtlas

inductive Pattern where
  | node (field kind capture : Option String) (children : List Pattern)
  | oneOf (field capture : Option String) (options : List Pattern)

/-- One way to match: the captured places by name, and all places that were asked for, both in document
order. -/
structure Match where
  captures : List (String × Place) := []
  seen : List Place := []

namespace Match

def place? (m : Match) (name : String) : Option Place := (m.captures.find? (·.1 == name)).map (·.2)

def lastAddress (m : Match) : List Nat := (m.seen.getLast?.map (·.address)).getD []

def append (first second : Match) : Match := ⟨first.captures ++ second.captures, first.seen ++ second.seen⟩

def capture (name : Option String) (p : Place) (m : Match) : Match :=
  { m with captures := (name.toList.map fun name => (name, p)) ++ m.captures }

end Match

def choices {α : Type} : List α → List (α × List α)
  | [] => []
  | x :: xs => (x, xs) :: choices xs

def notAfter : List Nat → List Nat → Bool
  | [], _ => true
  | _ :: _, [] => false
  | x :: xs, y :: ys => x < y || (x == y && notAfter xs ys)

namespace Pattern

def any : Pattern := .node none none none []

def ofKind (kind : String) (children : List Pattern := []) : Pattern := .node none (some kind) none children

def either (options : List Pattern) : Pattern := .oneOf none none options

def inField (field : String) : Pattern → Pattern
  | .node _ kind capture children => .node (some field) kind capture children
  | .oneOf _ capture options => .oneOf (some field) capture options

def captured (name : String) : Pattern → Pattern
  | .node field kind _ children => .node field kind (some name) children
  | .oneOf field _ options => .oneOf field (some name) options

def fits (wanted found : Option String) : Bool := wanted.isNone || wanted == found

mutual
def run : Pattern → Place → List Match
  | .node field kind capture children, p =>
    if p.node.named && fits field p.node.field && fits kind (some p.node.kind) then
      (runAll children p.children).map fun m => Match.capture capture p { m with seen := p :: m.seen }
    else []
  | .oneOf field capture options, p =>
    if fits field p.node.field then (runAny options p).map (Match.capture capture p) else []

def runAny : List Pattern → Place → List Match
  | [], _ => []
  | option :: options, p => option.run p ++ runAny options p

def runAll : List Pattern → List Place → List Match
  | [], _ => [{}]
  | pattern :: patterns, places =>
    (choices places).flatMap fun (p, later) =>
      (pattern.run p).flatMap fun first => (runAll patterns later).map first.append
end

mutual
/-- The names of the captures in the order in which the pattern's text gives them. -/
def captureNames : Pattern → List String
  | .node _ _ capture children => captureNamesAll children ++ capture.toList
  | .oneOf _ capture options => captureNamesAll options ++ capture.toList

def captureNamesAll : List Pattern → List String
  | [] => []
  | pattern :: patterns => pattern.captureNames ++ captureNamesAll patterns
end

mutual
def kinds : Pattern → List String
  | .node _ kind _ children => kind.toList ++ kindsAll children
  | .oneOf _ _ options => kindsAll options

def kindsAll : List Pattern → List String
  | [] => []
  | pattern :: patterns => pattern.kinds ++ kindsAll patterns
end

end Pattern

structure Query where
  pattern : Pattern
  texts : List (String × String) := []

namespace Query

def accepts (q : Query) (text : Place → String) (m : Match) : Bool :=
  q.texts.all fun (name, wanted) => (m.place? name).all fun p => text p == wanted

def matchesIn (q : Query) (text : Place → String) (p : Place) : List Match :=
  ((p.descendants.flatMap q.pattern.run).filter (q.accepts text)).mergeSort fun a b =>
    notAfter a.lastAddress b.lastAddress

def captureIndex (q : Query) (name : String) : Nat := q.pattern.captureNames.eraseDups.idxOf name

end Query

end SourceAtlas
