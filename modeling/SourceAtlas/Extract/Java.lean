import SourceAtlas.Distinct
import SourceAtlas.Extract.Package
import SourceAtlas.Import.Rules

namespace SourceAtlas.Java

def comments : List String := ["block_comment", "line_comment"]

def callers : List String := ["method_declaration", "constructor_declaration"]

def sourceRoots : List String := ["src/main/java/", "src/test/java/", "src/", "java/"]

def packagePattern : Pattern :=
  .ofKind "package_declaration"
    [(Pattern.either [.ofKind "scoped_identifier", .ofKind "identifier"]).captured "name"]

def packages : Pass := fun v _ =>
  match (v.findAll packagePattern).head?.bind (·.place? "name") with
  | some name => .ofSymbols [v.symbol name .packageName (v.text name) ("package " ++ v.text name)]
  | none => .ofSymbols (Package.inferred sourceRoots v.path)

def importPath (cs : List Char) : List Char :=
  let cs := Text.trim cs
  let cs := ((Text.after? "import".toList cs).getD cs).dropWhile Text.isBlank
  let cs := (Text.after? "static ".toList cs).getD cs
  (Text.words (Text.dropEnd (· == ';') cs)).flatten

def imports : Pass := fun v found =>
  let package := Package.found found
  let nodes := v.placesOf "import" ((Pattern.ofKind "import_declaration").captured "import")
  let paths := (nodes.map fun p => String.ofList (importPath (v.chars p))).filter (· != "")
  .ofDependencies (paths.map fun path => .ofImport path (Import.javaIsExternal path (some package)) package)

def typeKinds : List String := ["type_identifier", "generic_type", "scoped_type_identifier"]

def clauseTypes (v : View) (definition : Place) (clause : String) : List String :=
  match definition.childOfKind? clause with
  | none => []
  | some clause =>
    let list := (clause.childOfKind? "type_list").getD clause
    (list.namedChildren.filter (·.isAny typeKinds)).map v.bareName

def memberName? (v : View) (member : Place) : Option String := (member.childByField? "name").map v.text

def membersOf (v : View) (kinds : List String) (body : Place) : List (Place × String) :=
  (body.namedChildren.filter (·.isAny kinds)).filterMap fun member => (memberName? v member).map (member, ·)

def fieldSymbols (v : View) (declaration : Place) : List Symbol :=
  (membersOf v ["variable_declarator"] declaration).map fun (_, name) =>
    v.symbol declaration .field name (v.head declaration) (v.doc comments declaration)

def functionSymbol (v : View) (kind : SymbolKind) (member : Place) (name : String) : Symbol :=
  v.symbol member kind name (v.head member) (v.doc comments member)

def fields (v : View) (body : Place) : List Symbol :=
  (body.namedChildren.filter (·.kind == "field_declaration")).flatMap (fieldSymbols v)

def methods (v : View) (body : Place) : List Symbol :=
  (membersOf v ["method_declaration"] body).map fun (p, name) => functionSymbol v .method p name

def constructors (v : View) (body : Place) : List Symbol :=
  (membersOf v ["constructor_declaration"] body).map fun (p, name) => functionSymbol v .constructor p name

/-- The members of a body: fields, then methods, then constructors. -/
def bodySymbols (v : View) (body : Place) : List Symbol :=
  fields v body ++ methods v body ++ constructors v body

def bodyDeclared (v : View) (body : Place) : List (Place × String) := membersOf v callers body

def typeSymbol (v : View) (package : String) (kind : SymbolKind) (d : Definition) (children : List Symbol) :
    Symbol :=
  v.symbol d.node kind (Package.qualify package (v.text d.name)) (v.head d.node) (v.doc comments d.node)
    children

def implementedEdges (v : View) (d : Definition) : List Dependency :=
  (clauseTypes v d.node "super_interfaces").map (.edge .implementing (v.text d.name))

def typeFindings (s : Symbol) (declared : List (Place × String)) (edges : List Dependency) : Findings :=
  .ofSymbols [s] ++ .ofDeclared declared ++ .ofDependencies edges

def bodies (definition : Place) (kind : String) : List Place := (definition.childOfKind? kind).toList

def classFindings (v : View) (package : String) (d : Definition) : Findings :=
  let body := bodies d.node "class_body"
  let superclass := (clauseTypes v d.node "superclass").take 1
  typeFindings (typeSymbol v package .classType d (body.flatMap (bodySymbols v)))
    (body.flatMap (bodyDeclared v))
    (superclass.map (.edge .inherits (v.text d.name)) ++ implementedEdges v d)

def classes : Pass := fun v found =>
  .concat ((v.definitions (Definition.pattern "class_declaration" "identifier")).map
    (classFindings v (Package.found found)))

def interfaceFindings (v : View) (package : String) (d : Definition) : Findings :=
  let body := bodies d.node "interface_body"
  typeFindings (typeSymbol v package .interface d (body.flatMap (methods v))) (body.flatMap (bodyDeclared v))
    ((clauseTypes v d.node "extends_interfaces").map (.edge .inherits (v.text d.name)))

def interfaces : Pass := fun v found =>
  .concat ((v.definitions (Definition.pattern "interface_declaration" "identifier")).map
    (interfaceFindings v (Package.found found)))

def enumSymbols (v : View) (entry : Place) : List Symbol :=
  if entry.kind == "enum_constant" then
    (memberName? v entry).toList.map fun name =>
      v.symbol entry .enumConstant name (v.collapsed entry) (v.doc comments entry)
  else if entry.kind == "enum_body_declarations" then bodySymbols v entry
  else []

def enumDeclared (v : View) (entry : Place) : List (Place × String) :=
  if entry.kind == "enum_body_declarations" then bodyDeclared v entry else []

def enumFindings (v : View) (package : String) (d : Definition) : Findings :=
  let entries := (bodies d.node "enum_body").flatMap (·.namedChildren)
  typeFindings (typeSymbol v package .enumType d (entries.flatMap (enumSymbols v)))
    (entries.flatMap (enumDeclared v)) (implementedEdges v d)

def enums : Pass := fun v found =>
  .concat ((v.definitions (Definition.pattern "enum_declaration" "identifier")).map
    (enumFindings v (Package.found found)))

def components (v : View) (definition : Place) : List Symbol :=
  let parameters := (definition.childByField? "parameters").toList
  (parameters.flatMap (membersOf v ["formal_parameter"])).map fun (p, name) =>
    v.symbol p .field name (v.collapsed p)

def recordFindings (v : View) (package : String) (d : Definition) : Findings :=
  let body := bodies d.node "class_body"
  typeFindings
    (typeSymbol v package .record d (components v d.node ++ body.flatMap (bodySymbols v)))
    (body.flatMap (bodyDeclared v)) (implementedEdges v d)

def records : Pass := fun v found =>
  .concat ((v.definitions (Definition.pattern "record_declaration" "identifier")).map
    (recordFindings v (Package.found found)))

def annotatedKinds : List String :=
  ["class_declaration", "interface_declaration", "enum_declaration", "record_declaration",
    "method_declaration", "constructor_declaration", "annotation_type_declaration", "field_declaration"]

def declaredName? (v : View) (declaration : Place) : Option String :=
  if declaration.kind == "field_declaration" then
    (declaration.childOfKind? "variable_declarator").bind (memberName? v)
  else memberName? v declaration

def annotated? (v : View) (p : Place) : Option String :=
  (p.ancestors.find? (·.isAny annotatedKinds)).bind (declaredName? v)

def usagePattern : Pattern :=
  let name := ((Pattern.ofKind "identifier").inField "name").captured "usage"
  .either [.ofKind "marker_annotation" [name], .ofKind "annotation" [name]]

def annotationEdges (v : View) : List Dependency :=
  distinctBy Dependency.key ((v.placesOf "usage" usagePattern).filterMap fun p =>
    (annotated? v p).map fun target => .edge .annotatedWith target (v.text p))

def annotations : Pass := fun v _ =>
  { symbols := (v.definitions (Definition.pattern "annotation_type_declaration" "identifier")).map fun d =>
      v.symbol d.node .annotationType (v.text d.name) (v.head d.node) (v.doc comments d.node)
    dependencies := annotationEdges v }

def callPattern : Pattern :=
  .either
    [.ofKind "method_invocation" [((Pattern.ofKind "identifier").inField "name").captured "target"],
      .ofKind "object_creation_expression"
        [((Pattern.either (typeKinds.map fun kind => .ofKind kind)).inField "type").captured "target"]]

def callSites (v : View) : List CallSite :=
  (v.placesOf "target" callPattern).map fun p => ⟨p, v.bareName p⟩

def calls : Pass := fun v found => callEdges callers found (callSites v)

def beforeCalls : List Pass := [packages, imports, classes, interfaces, enums, records, annotations]

def passes : List Pass := beforeCalls ++ [calls]

end SourceAtlas.Java
