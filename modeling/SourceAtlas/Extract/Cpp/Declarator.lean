import SourceAtlas.Extract.Findings

/-! The name of what is declared stands inside pointers, references, arrays and parameter lists. -/

namespace SourceAtlas.Cpp

def nameKinds : List String :=
  ["identifier", "field_identifier", "type_identifier", "destructor_name", "operator_name",
    "namespace_identifier"]

def inner? (p : Place) : Option Place := (p.childByField? "declarator").or p.lastNamedChild?

theorem size_lt_of_inner? {p q : Place} (h : inner? p = some q) : q.node.size < p.node.size := by
  unfold inner? at h
  cases hd : p.childByField? "declarator" with
  | some r =>
    rw [hd, Option.some_or] at h
    exact Place.size_lt_of_childByField? (hd.trans h)
  | none =>
    rw [hd, Option.none_or] at h
    exact Place.size_lt_of_lastNamedChild? h

/-- The name at the end of a chain of declarators; of a qualified name the last segment. -/
def declaredName? (p : Place) : Option Place :=
  if p.isAny nameKinds then some p
  else if p.isAny ["qualified_identifier", "template_function"] then
    match _h : p.childByField? "name" with
    | some q => declaredName? q
    | none => none
  else
    match _h : inner? p with
    | some q => declaredName? q
    | none => none
termination_by p.node.size
decreasing_by
  · exact Place.size_lt_of_childByField? _h
  · exact size_lt_of_inner? _h

def functionDeclaratorFrom? (p : Place) : Option Place :=
  if p.kind == "function_declarator" then some p
  else if p.isAny ("qualified_identifier" :: nameKinds) then none
  else
    match _h : inner? p with
    | some q => functionDeclaratorFrom? q
    | none => none
termination_by p.node.size
decreasing_by exact size_lt_of_inner? _h

def functionDeclarator? (p : Place) : Option Place :=
  (p.childByField? "declarator").bind functionDeclaratorFrom?

def functionName? (p : Place) : Option Place :=
  ((functionDeclarator? p).bind (·.childByField? "declarator")).bind declaredName?

def declaredNames (p : Place) : List Place := (p.childrenByField "declarator").filterMap declaredName?

def isOperator (name : Place) : Bool := name.kind == "operator_name"

end SourceAtlas.Cpp
