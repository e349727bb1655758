import SourceAtlas.Extract.Findings
import SourceAtlas.Import.Rules
import SourceAtlas.Text.Find

namespace SourceAtlas.Swift

def comments : List String := ["comment", "multiline_comment"]

def callers : List String := ["function_declaration", "init_declaration"]

def typeKinds : List String := ["class_declaration", "protocol_declaration"]

def importKinds : List (List Char) :=
  ["typealias".toList, "struct".toList, "class".toList, "enum".toList, "protocol".toList, "let".toList,
    "var".toList, "func".toList]

def importedModule? (cs : List Char) : Option (List Char) :=
  match (Text.words cs).dropWhile (· != "import".toList) with
  | [] => none
  | _ :: rest =>
    let rest := if rest.head?.any importKinds.contains then rest.tail else rest
    rest.head?.map (Text.dropEnd (· == ';'))

def imports : Pass := fun v _ =>
  let names := (v.root.namedDescendants ["import_declaration"]).filterMap fun p =>
    (importedModule? (v.chars p)).map String.ofList
  .ofDependencies (names.map fun name => .ofImport name (Import.swiftIsExternal name))

def keywords : List String := ["class", "struct", "enum", "extension", "actor"]

def keyword? (p : Place) : Option String :=
  match p.childByField? "declaration_kind" with
  | some kind => if keywords.contains kind.kind then some kind.kind else none
  | none => (p.children.find? fun c => !c.node.named && keywords.contains c.kind).map (·.kind)

def typeName? (v : View) (p : Place) : Option String :=
  (((p.childByField? "name").or (p.childOfKind? "type_identifier")).map v.bareName).filter (· != "")

def inherited (v : View) (p : Place) : List String :=
  ((p.children.filter (·.kind == "inheritance_specifier")).map v.bareName).filter (· != "")

def memberName? (v : View) (p : Place) : Option String :=
  (((p.childByField? "name").or (p.childOfKind? "simple_identifier")).map v.text).filter (· != "")

def propertyName? (v : View) (p : Place) : Option String :=
  let pattern := (p.childByField? "name").or (p.childOfKind? "pattern")
  (pattern.bind (·.descendantOfKind? "simple_identifier")).map v.text

def headSymbol (v : View) (kind : SymbolKind) (p : Place) (name : String) (children : List Symbol := []) :
    Symbol :=
  v.symbol p kind name (v.head p) (v.doc comments p) children

def propertyKind (v : View) (p : Place) : SymbolKind :=
  if ["willSet", "didSet"].any fun word => Text.contains word.toList (v.chars p) then .propertyObserver
  else .property

def propertySymbol? (v : View) (p : Place) : Option Symbol :=
  (propertyName? v p).map (headSymbol v (propertyKind v p) p ·)

def enumCases (v : View) (entry : Place) : List Symbol :=
  (entry.children.filter (·.kind == "simple_identifier")).map fun name =>
    v.symbol entry .enumCase (v.text name) (v.collapsed entry) (v.doc comments entry)

def bodyMembers (p : Place) : List Place :=
  match (p.childByField? "body").or (p.childOfKinds? ["class_body", "enum_class_body", "protocol_body"]) with
  | none => []
  | some body => body.namedChildren

def callableName? (v : View) (member : Place) : Option String :=
  if member.isAny ["function_declaration", "protocol_function_declaration"] then memberName? v member
  else if member.kind == "init_declaration" then some "init"
  else none

def callables (v : View) (p : Place) : List (Place × String) :=
  (bodyMembers p).filterMap fun member => (callableName? v member).map (member, ·)

def callableSymbol (v : View) (member : Place) (name : String) : Symbol :=
  headSymbol v (if member.kind == "init_declaration" then .constructor else .method) member name

def members (v : View) (p : Place) : List Symbol :=
  ((bodyMembers p).filter (·.kind == "enum_entry")).flatMap (enumCases v) ++
    ((bodyMembers p).filter (·.isAny ["property_declaration", "protocol_property_declaration"])).filterMap
      (propertySymbol? v) ++
    (callables v p).map fun (member, name) => callableSymbol v member name

def typeFindings (v : View) (kind : SymbolKind) (p : Place) (name : String) (edges : List Dependency) :
    Findings :=
  .ofSymbols [headSymbol v kind p name (members v p)] ++ .ofDeclared (callables v p) ++ .ofDependencies edges

def declarations (v : View) (kind : String) : List (Place × String) :=
  (v.root.namedDescendants [kind]).filterMap fun p => (typeName? v p).map (p, ·)

def declaredWith (v : View) (words : List String) : List (Place × String) :=
  (declarations v "class_declaration").filter fun (p, _) => (keyword? p).any words.contains

/-- Edges from a type to all that it inherits. The grammar cannot tell a superclass from a protocol, so a
class extends the first of them and conforms to each. -/
def inheritanceEdges (v : View) (kind : SymbolKind) (p : Place) (name : String) : List Dependency :=
  (if kind = .classType then ((inherited v p).take 1).map (.edge .inherits name) else []) ++
    (inherited v p).map (.edge .conforms name)

def typePass (words : List String) (kind : SymbolKind) : Pass := fun v _ =>
  .concat ((declaredWith v words).map fun (p, name) =>
    typeFindings v kind p name (inheritanceEdges v kind p name))

def classes : Pass := typePass ["class", "actor"] .classType

def structs : Pass := typePass ["struct"] .structType

def enums : Pass := typePass ["enum"] .enumType

def protocols : Pass := fun v _ =>
  .concat ((declarations v "protocol_declaration").map fun (p, name) =>
    typeFindings v .protocol p name ((inherited v p).map (.edge .inherits name)))

def extensions : Pass := fun v _ =>
  .concat ((declaredWith v ["extension"]).map fun (p, extended) =>
    let name := "extension_" ++ extended
    typeFindings v .extension p name
      (.edge .inherits name extended :: (inherited v p).map (.edge .conforms name)))

def functions : Pass := fun v _ =>
  let found := (v.root.namedDescendants ["function_declaration"]).filter (!·.isInside typeKinds)
  .ofDeclarations (found.filterMap fun p =>
    (memberName? v p).map fun name => (p, headSymbol v .function p name))

def properties : Pass := fun v _ =>
  let found := (v.root.namedDescendants ["property_declaration"]).filter
    (!·.isInside (typeKinds ++ ["function_declaration"]))
  .ofSymbols (found.filterMap (propertySymbol? v))

def callTarget? (call : Place) : Option Place :=
  call.namedChildren.head?.bind
    (Place.trailingName? ["navigation_expression", "navigation_suffix"] ["simple_identifier"])

def callSites (v : View) : List CallSite :=
  (v.root.namedDescendants ["call_expression"]).filterMap fun call =>
    (callTarget? call).map fun target => ⟨call, v.text target⟩

def calls : Pass := fun v found => callEdges callers found (callSites v)

def beforeCalls : List Pass :=
  [imports, classes, structs, enums, protocols, extensions, functions, properties]

def passes : List Pass := beforeCalls ++ [calls]

end SourceAtlas.Swift
