import SourceAtlas.Extract.Findings
import SourceAtlas.Import.Rules

namespace SourceAtlas.Go

def comments : List String := ["comment"]

def callers : List String := ["function_declaration", "method_declaration"]

def packages : Pass := fun v _ =>
  let names := ((v.root.childOfKind? "package_clause").bind (·.childOfKind? "package_identifier")).toList
  .ofSymbols (names.map fun name => v.symbol name .packageName (v.text name) ("package " ++ v.text name))

def importPattern : Pattern := .ofKind "import_spec" [(Pattern.any.inField "path").captured "path"]

def importPath (v : View) (p : Place) : String :=
  String.ofList (Text.dropBoth (fun c => c == '"' || c == '\x60') (v.chars p))

def imports (moduleName : Option String) : Pass := fun v _ =>
  let paths := ((v.placesOf "path" importPattern).map (importPath v)).filter (· != "")
  .ofDependencies (paths.map fun path => .ofImport path (Import.goIsExternal path moduleName))

/-- A function or method up to its body. A brace does not end it, since types of parameters have braces,
too. -/
def functionSymbol (v : View) (kind : SymbolKind) (d : Definition) : Symbol :=
  v.symbol d.node kind (v.text d.name) (v.headBeforeBody d.node) (v.doc comments d.node)

def functions : Pass := fun v _ =>
  .ofDeclarations ((v.definitions (Definition.pattern "function_declaration" "identifier")).map fun d =>
    (d.node, functionSymbol v .function d))

def methodPattern : Pattern :=
  (Pattern.ofKind "method_declaration"
    [(Pattern.ofKind "parameter_list").inField "receiver",
      ((Pattern.ofKind "field_identifier").inField "name").captured "name"]).captured "definition"

def methods : Pass := fun v _ =>
  .ofDeclarations ((v.definitions methodPattern).map fun d => (d.node, functionSymbol v .method d))

structure TypeDefinition where
  name : Place
  body : Place
  node : Place

def typePattern : Pattern :=
  let named (kind : String) : Pattern :=
    .ofKind kind
      [((Pattern.ofKind "type_identifier").inField "name").captured "name",
        (Pattern.any.inField "type").captured "body"]
  (Pattern.either [named "type_spec", named "type_alias"]).captured "definition"

def TypeDefinition.ofMatch? (m : Match) : Option TypeDefinition :=
  match m.place? "name", m.place? "body", m.place? "definition" with
  | some name, some body, some node => some ⟨name, body, node⟩
  | _, _, _ => none

def typeDefinitions (v : View) : List TypeDefinition :=
  (v.findAll typePattern).filterMap TypeDefinition.ofMatch?

/-- The documentation of a type: inside a group it stands before the type, else before the whole
declaration. -/
def typeDoc (v : View) (p : Place) : String := v.docThrough comments ["type_declaration"] p

def fieldDeclarations (body : Place) : List Place :=
  match body.childOfKind? "field_declaration_list" with
  | none => []
  | some list => list.namedChildren.filter (·.kind == "field_declaration")

def fieldNames (v : View) (declaration : Place) : List String :=
  (declaration.namedChildren.filter (·.kind == "field_identifier")).map v.text

def fieldType (v : View) (declaration : Place) : String :=
  ((declaration.childByField? "type").map v.text).getD ""

def fieldSymbols (v : View) (declaration : Place) : List Symbol :=
  (fieldNames v declaration).map fun name =>
    v.symbol declaration .field name (name ++ " " ++ fieldType v declaration)

def embeddedField (v : View) (owner : String) (declaration : Place) : List Dependency :=
  let embedded := String.ofList ((fieldType v declaration).toList.dropWhile (· == '*'))
  if (fieldNames v declaration).isEmpty && embedded != "" then [.edge .inherits owner embedded] else []

def structSymbol (v : View) (d : TypeDefinition) : Symbol :=
  v.symbol d.node .structType (v.text d.name) ("type " ++ v.text d.name ++ " struct") (typeDoc v d.node)
    ((fieldDeclarations d.body).flatMap (fieldSymbols v))

def structs : Pass := fun v _ =>
  let found := (typeDefinitions v).filter (·.body.kind == "struct_type")
  { symbols := found.map (structSymbol v)
    dependencies := found.flatMap fun d =>
      (fieldDeclarations d.body).flatMap (embeddedField v (v.text d.name)) }

def interfaceMethods (v : View) (body : Place) : List Symbol :=
  (body.namedChildren.filter (·.kind == "method_elem")).filterMap fun p =>
    (p.childOfKind? "field_identifier").map fun name => v.symbol p .method (v.text name) (v.collapsed p)

def interfaceSymbol (v : View) (d : TypeDefinition) : Symbol :=
  v.symbol d.node .interface (v.text d.name) ("type " ++ v.text d.name ++ " interface") (typeDoc v d.node)
    (interfaceMethods v d.body)

def interfaces : Pass := fun v _ =>
  let found := (typeDefinitions v).filter (·.body.kind == "interface_type")
  { symbols := found.map (interfaceSymbol v)
    dependencies := found.flatMap fun d =>
      (d.body.namedChildren.filter (·.kind == "type_elem")).map fun p =>
        .edge .inherits (v.text d.name) (v.trimmed p) }

def types : Pass := fun v _ =>
  let found := (typeDefinitions v).filter (!·.body.isAny ["struct_type", "interface_type"])
  .ofSymbols (found.map fun d =>
    v.symbol d.node .namedType (v.text d.name) ("type " ++ v.collapsed d.node) (typeDoc v d.node))

def callPattern : Pattern :=
  let target := Pattern.either [.ofKind "identifier", .ofKind "selector_expression"]
  .ofKind "call_expression" [(target.inField "function").captured "target"]

def callSites (v : View) : List CallSite :=
  (v.placesOf "target" callPattern).map fun p => ⟨p, v.text p⟩

def calls : Pass := fun v found => callEdges callers found (callSites v)

def beforeCalls (moduleName : Option String) : List Pass :=
  [packages, imports moduleName, functions, methods, structs, interfaces, types]

def passes (moduleName : Option String) : List Pass := beforeCalls moduleName ++ [calls]

end SourceAtlas.Go
