import SourceAtlas.Extract.Findings
import SourceAtlas.Import.Rules

namespace SourceAtlas.JavaScript

def comments : List String := ["comment"]

def callers : List String :=
  ["function_declaration", "generator_function_declaration", "function_expression", "arrow_function",
    "method_definition"]

def isTyped (v : View) : Bool := v.language == .typeScript

def doc (v : View) (p : Place) : String := v.docThrough comments ["export_statement"] p

def addMissing (line text : List Char) : List Char :=
  if Text.contains text line then line else line ++ ' ' :: text

/-- The first line of a declaration, followed by the type annotations that are not on it. -/
def head (v : View) (p : Place) : String :=
  let types := if isTyped v then p.children.filter (·.kind == "type_annotation") else []
  String.ofList ((types.map v.chars).foldl addMissing (Text.firstLine (v.chars p)))

def isAsync (p : Place) : Bool := p.hasChild "async"

def isAsyncAround (p : Place) : Bool := isAsync p || p.parent?.any isAsync

def moduleImports : Pattern :=
  let source := ((Pattern.ofKind "string").inField "source").captured "source"
  .either [.ofKind "import_statement" [source], .ofKind "export_statement" [source]]

def requireCall : Pattern :=
  .ofKind "call_expression"
    [((Pattern.ofKind "identifier").inField "function").captured "function",
      (Pattern.ofKind "arguments" [(Pattern.ofKind "string").captured "source"]).inField "arguments"]

def specifier (v : View) (p : Place) : String :=
  String.ofList (Text.dropBoth (fun c => c == '"' || c == '\'' || c == '\x60') (v.chars p))

def imports : Pass := fun v _ =>
  let found := v.findAll moduleImports ++ v.findAll requireCall [("function", "require")]
  let names := ((found.filterMap (·.place? "source")).map (specifier v)).filter (· != "")
  .ofDependencies (names.map fun name => .ofImport name (Import.javaScriptIsExternal name))

def exportStatements : Pass := fun v _ =>
  .ofSymbols ((v.placesOf "statement" ((Pattern.ofKind "export_statement").captured "statement")).map fun p =>
    v.symbol p .exportStatement "export" (v.firstLine p))

def functionPattern : Pattern :=
  let name := ((Pattern.ofKind "identifier").inField "name").captured "name"
  (Pattern.either
    [.ofKind "function_declaration" [name],
      .ofKind "generator_function_declaration" [name]]).captured "definition"

def functionKind (v : View) (p : Place) : SymbolKind :=
  if p.kind == "generator_function_declaration" || Text.contains "function*".toList (v.chars p) then
    .generatorFunction
  else if isAsyncAround p then .asyncFunction
  else .function

def functionSymbol (v : View) (d : Definition) : Symbol :=
  v.symbol d.node (functionKind v d.node) (v.text d.name) (head v d.node) (doc v d.node)

def boundPattern (kind : String) : Pattern :=
  .ofKind "variable_declarator"
    [((Pattern.ofKind "identifier").inField "name").captured "name",
      ((Pattern.ofKind kind).inField "value").captured "definition"]

def bindingDoc (v : View) (value : Place) : String :=
  ((value.parent?.bind (·.parent?)).map (doc v)).getD ""

def boundSymbol (v : View) (kind : SymbolKind) (d : Definition) : Symbol :=
  v.symbol d.node kind (v.text d.name) ("const " ++ v.text d.name ++ " = " ++ head v d.node)
    (bindingDoc v d.node)

def functions : Pass := fun v _ =>
  .ofDeclarations
    ((v.definitions functionPattern).map (fun d => (d.node, functionSymbol v d)) ++
      (v.definitions (boundPattern "function_expression")).map fun d =>
        (d.node, boundSymbol v (if isAsyncAround d.node then .asyncFunction else .function) d))

def arrowFunctions : Pass := fun v _ =>
  .ofDeclarations ((v.definitions (boundPattern "arrow_function")).map fun d =>
    (d.node, boundSymbol v (if isAsync d.node then .asyncArrowFunction else .arrowFunction) d))

def classPattern (typed : Bool) : Pattern :=
  if typed then
    let name := ((Pattern.ofKind "type_identifier").inField "name").captured "name"
    (Pattern.either
      [.ofKind "class_declaration" [name], .ofKind "abstract_class_declaration" [name]]).captured "definition"
  else Definition.pattern "class_declaration" "identifier"

def heritage (definition : Place) : List Place :=
  ((definition.childOfKind? "class_heritage").map (·.namedChildren)).getD []

def isBase (p : Place) : Bool := p.isAny ["identifier", "member_expression"]

def baseIn? (part : Place) : Option Place :=
  if part.kind == "extends_clause" then part.namedChildren.find? isBase
  else if isBase part then some part
  else none

def base? (v : View) (definition : Place) : Option String :=
  ((heritage definition).findSome? baseIn?).map v.text

def implemented (v : View) (definition : Place) : List String :=
  ((heritage definition).filter (·.kind == "implements_clause")).flatMap fun clause =>
    clause.namedChildren.map v.bareName

def memberName? (v : View) (member : Place) : Option String :=
  (member.childOfKinds? ["property_identifier", "private_property_identifier"]).map v.text

def members (v : View) (kinds : List String) (definition : Place) : List (Place × String) :=
  match definition.childOfKind? "class_body" with
  | none => []
  | some body => (body.namedChildren.filter (·.isAny kinds)).filterMap fun member =>
    (memberName? v member).map (member, ·)

def methods (v : View) (definition : Place) : List (Place × String) :=
  members v ["method_definition"] definition

def methodKind (method : Place) : SymbolKind :=
  if isAsync method then .asyncMethod
  else if method.hasChild "static" then .staticMethod
  else .method

def methodSymbol (v : View) (method : Place) (name : String) : Symbol :=
  v.symbol method (methodKind method) name (head v method) (v.doc comments method)

def longestProperty : Nat := 100

def propertySignature (cs : List Char) : List Char :=
  if longestProperty < cs.length then cs.take longestProperty ++ "...".toList else cs

def propertySymbol (v : View) (property : Place) (name : String) : Symbol :=
  v.symbol property (if property.hasChild "static" then .staticProperty else .property) name
    (String.ofList (propertySignature (Text.trim (v.chars property))))

def classHead (name : String) : Option String → String
  | some base => "class " ++ name ++ " extends " ++ base
  | none => "class " ++ name

def classFindings (v : View) (d : Definition) : Findings :=
  let name := v.text d.name
  { symbols :=
      [v.symbol d.node .classType name (classHead name (base? v d.node)) (doc v d.node)
        ((methods v d.node).map (fun (p, name) => methodSymbol v p name) ++
          (members v ["field_definition", "public_field_definition"] d.node).map fun (p, name) =>
            propertySymbol v p name)]
    dependencies :=
      (base? v d.node).toList.map (.edge .inherits name) ++
        (implemented v d.node).map (.edge .implementing name)
    declared := (methods v d.node).map fun (p, name) => (p.address, name) }

def classes : Pass := fun v _ =>
  .concat ((v.definitions (classPattern (isTyped v))).map (classFindings v))

def interfaceMember? (v : View) (member : Place) : Option Symbol :=
  let signature := String.ofList (Text.dropEnd (fun c => c == ';' || c == ',') (Text.trim (v.chars member)))
  let symbolOf (kind : SymbolKind) :=
    (member.childByField? "name").map fun name => v.symbol member kind (v.text name) signature
  if member.kind == "method_signature" then symbolOf .method
  else if member.kind == "property_signature" then symbolOf .property
  else none

def interfaceFindings (v : View) (d : Definition) : Findings :=
  let name := v.text d.name
  let body := ((d.node.childByField? "body").map (·.namedChildren)).getD []
  let bases := ((d.node.childOfKind? "extends_type_clause").map (·.namedChildren)).getD []
  { symbols :=
      [v.symbol d.node .interface name ("interface " ++ name) (doc v d.node)
        (body.filterMap (interfaceMember? v))]
    dependencies := bases.map fun base => .edge .inherits name (v.bareName base) }

def interfaces : Pass := fun v _ =>
  if isTyped v then
    .concat ((v.definitions (Definition.pattern "interface_declaration" "type_identifier")).map
      (interfaceFindings v))
  else {}

def typeAliases : Pass := fun v _ =>
  if isTyped v then
    .ofSymbols ((v.definitions (Definition.pattern "type_alias_declaration" "type_identifier")).map fun d =>
      v.symbol d.node .typeAlias (v.text d.name) (v.firstLine d.node) (doc v d.node))
  else {}

def callPattern : Pattern :=
  let target := Pattern.either [.ofKind "identifier", .ofKind "member_expression"]
  .ofKind "call_expression" [(target.inField "function").captured "target"]

def callSites (v : View) : List CallSite :=
  (v.placesOf "target" callPattern).map fun p => ⟨p, v.text p⟩

def calls : Pass := fun v found => callEdges callers found (callSites v)

def beforeCalls : List Pass :=
  [imports, exportStatements, functions, arrowFunctions, classes, interfaces, typeAliases]

def passes : List Pass := beforeCalls ++ [calls]

end SourceAtlas.JavaScript
