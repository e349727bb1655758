import SourceAtlas.Extract.Cpp.Declarator
import SourceAtlas.Text.Find

namespace SourceAtlas.Cpp

def comments : List String := ["comment"]

def classKinds : List String := ["class_specifier", "struct_specifier"]

def modifierKinds : List String :=
  ["storage_class_specifier", "type_qualifier", "virtual", "virtual_function_specifier"]

def hasModifier (v : View) (p : Place) (keyword : String) : Bool :=
  p.children.any fun c => (!c.node.named || c.isAny modifierKinds) && v.text c == keyword

def isInTemplate (p : Place) : Bool := p.parent?.any (·.kind == "template_declaration")

def isMember (p : Place) : Bool := p.parent?.any (·.kind == "field_declaration_list")

def doc (v : View) (p : Place) : String :=
  v.doc comments ((p.parent?.filter (·.kind == "template_declaration")).getD p)

def typeName? (v : View) (p : Place) : Option String :=
  ((p.childByField? "name").map v.text).filter (· != "")

def headSymbol (v : View) (kind : SymbolKind) (keepSemicolon : Bool) (p : Place) (name : String) : Symbol :=
  v.symbol p kind name (v.head p keepSemicolon) (doc v p)

/-- A member that is named like its class constructs it. -/
def methodKind (v : View) (className name : String) (p : Place) : SymbolKind :=
  if name == className then .constructor
  else if hasModifier v p "virtual" then .virtualMethod
  else .method

/-- The symbols of one member of a class, each with the node it comes from. Definitions and declarations of
functions are methods alike; other declarations introduce fields. -/
def memberSymbols (v : View) (className : String) (item : Place) : List (Place × Symbol) :=
  let methodSymbol (keepSemicolon : Bool) (name : Place) : Symbol :=
    headSymbol v (methodKind v className (v.text name) item) keepSemicolon item (v.text name)
  if item.kind == "function_definition" then
    (functionName? item).toList.map fun name => (item, methodSymbol false name)
  else if item.isAny ["field_declaration", "declaration"] then
    match functionName? item with
    | some name => [(item, methodSymbol true name)]
    | none => (declaredNames item).map fun name => (item, headSymbol v .field true item (v.text name))
  else []

def members (v : View) (className : String) (body : Place) : List (Place × Symbol) :=
  body.namedChildren.flatMap (memberSymbols v className)

def definedMembers (v : View) (className : String) (body : Place) : List (Place × String) :=
  ((members v className body).filter (·.1.kind == "function_definition")).map fun (p, s) => (p, s.name)

structure TypeBody where
  node : Place
  name : String
  body : Place

def typeBodies (v : View) (kinds : List String) : List TypeBody :=
  (v.root.namedDescendants kinds).filterMap fun p =>
    match typeName? v p, p.childByField? "body" with
    | some name, some body => some ⟨p, name, body⟩
    | _, _ => none

def memberedSymbol (v : View) (kind : SymbolKind) (keyword : String) (t : TypeBody) : Symbol :=
  v.symbol t.node kind t.name (keyword ++ " " ++ t.name) (doc v t.node) ((members v t.name t.body).map (·.2))

def classSymbol (v : View) (t : TypeBody) : Symbol :=
  if t.node.kind == "class_specifier" then memberedSymbol v .classType "class" t
  else memberedSymbol v .structType "struct" t

def classes : Pass := fun v _ =>
  .concat ((typeBodies v classKinds).map fun t =>
    .ofDeclared (definedMembers v t.name t.body) ++ .declaring t.node (classSymbol v t))

def unions : Pass := fun v _ =>
  .concat ((typeBodies v ["union_specifier"]).map fun t =>
    .ofDeclared (definedMembers v t.name t.body) ++ .ofSymbols [memberedSymbol v .unionType "union" t])

def enumConstants (v : View) (body : Place) : List Symbol :=
  (body.namedDescendants ["enumerator"]).filterMap fun p =>
    (typeName? v p).map fun name => v.symbol p .enumConstant name (v.text p)

def enums : Pass := fun v _ =>
  .ofSymbols ((typeBodies v ["enum_specifier"]).map fun t =>
    v.symbol t.node .enumType t.name (v.head t.node) (doc v t.node) (enumConstants v t.body))

def baseKinds : List String := ["type_identifier", "qualified_type_identifier", "template_type"]

def baseEdges (v : View) (p : Place) : List Dependency :=
  match typeName? v p, p.childOfKind? "base_class_clause" with
  | some name, some clause =>
    (clause.namedChildren.filter (·.isAny baseKinds)).map fun base => .edge .inherits name (v.bareName base)
  | _, _ => []

def inheritance : Pass := fun v _ =>
  .ofDependencies ((v.root.namedDescendants classKinds).flatMap (baseEdges v))

def isOverride (v : View) (member : Place) : Bool :=
  let stop := ((member.childByField? "body").map (·.node.start)).getD member.node.stop
  (member.namedDescendants ["virtual_specifier"]).any fun p =>
    member.node.start ≤ p.node.start && p.node.start < stop && Text.contains "override".toList (v.chars p)

def overrideEdges (v : View) (t : TypeBody) : List Dependency :=
  ((t.body.namedChildren.filter (isOverride v)).filterMap functionName?).map fun name =>
    .edge .overrides (t.name ++ "::" ++ v.text name) (v.text name)

def overrides : Pass := fun v _ => .ofDependencies ((typeBodies v classKinds).flatMap (overrideEdges v))

end SourceAtlas.Cpp
