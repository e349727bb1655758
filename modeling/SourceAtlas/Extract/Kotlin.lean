import SourceAtlas.Distinct
import SourceAtlas.Extract.Package
import SourceAtlas.Import.Rules

namespace SourceAtlas.Kotlin

def comments : List String := ["line_comment", "block_comment", "multiline_comment", "comment"]

def nameKinds : List String := ["identifier", "simple_identifier", "type_identifier"]

def typeKinds : List String := ["class_declaration", "object_declaration"]

def callers : List String := ["function_declaration"]

def sourceRoots : List String :=
  ["src/main/kotlin/", "src/test/kotlin/", "src/main/java/", "src/test/java/", "src/", "kotlin/", "java/"]

/-- The name of a declaration: what fills the field `name`, else the first name among the children. -/
def declarationName? (v : View) (p : Place) : Option String :=
  (((p.childByField? "name").or (p.childOfKinds? nameKinds)).map v.text).filter (· != "")

def propertyName? (v : View) (p : Place) : Option String :=
  (p.childOfKind? "variable_declaration").bind (declarationName? v)

def keywordsOf (v : View) (child : Place) : List (List Char) :=
  if child.kind == "modifiers" then
    (child.namedChildren.filter (·.kind != "annotation")).flatMap fun modifier =>
      Text.words (v.chars modifier)
  else if child.node.named then []
  else [child.kind.toList]

def keywords (v : View) (p : Place) : List (List Char) :=
  (p.children.takeWhile (!·.isAny nameKinds)).flatMap (keywordsOf v)

def hasKeyword (v : View) (p : Place) (keyword : String) : Bool := (keywords v p).contains keyword.toList

def isInterface (v : View) (p : Place) : Bool := p.kind == "class_declaration" && hasKeyword v p "interface"

def typeKind (v : View) (p : Place) : SymbolKind :=
  if p.kind == "object_declaration" then .object
  else if hasKeyword v p "data" then .dataClass
  else if hasKeyword v p "sealed" then .sealedClass
  else if hasKeyword v p "enum" then .enumClass
  else .classType

def packageName (cs : List Char) : List Char :=
  Text.collapse (Text.dropEnd (· == ';') ((Text.after? "package".toList (Text.trim cs)).getD cs))

def declaredPackage (v : View) : List Symbol :=
  match v.root.childOfKind? "package_header" with
  | none => []
  | some header =>
    let name := String.ofList (packageName (v.chars header))
    if name == "" then [] else [v.symbol header .packageName name ("package " ++ name)]

def packages : Pass := fun v _ =>
  let declared := declaredPackage v
  .ofSymbols (if declared.isEmpty then Package.inferred sourceRoots v.path else declared)

def importPath (cs : List Char) : List Char :=
  let cs := Text.trim cs
  let cs := Text.beforeFirst " as ".toList ((Text.after? "import".toList cs).getD cs)
  (Text.words (Text.dropEnd (· == ';') (Text.trim cs))).flatten

def imports : Pass := fun v found =>
  let package := Package.found found
  let nodes := v.root.namedDescendants ["import", "import_header"]
  let paths := (nodes.map fun p => String.ofList (importPath (v.chars p))).filter (· != "")
  .ofDependencies (paths.map fun path => .ofImport path (Import.kotlinIsExternal path (some package)) package)

/-- The members that a child of a body stands for: some bodies wrap their members once more. -/
def unwrapMembers (child : Place) : List Place :=
  if "class_member_declaration".toList.isPrefixOf child.kind.toList then child.namedChildren else [child]

def bodyMembers (p : Place) : List Place :=
  match p.childOfKinds? ["class_body", "enum_class_body"] with
  | none => []
  | some body => body.namedChildren.flatMap unwrapMembers

def methodsOf (v : View) (p : Place) : List (Place × String) :=
  ((bodyMembers p).filter (·.kind == "function_declaration")).filterMap fun member =>
    (declarationName? v member).map (member, ·)

def isSuspend (v : View) (p : Place) : Bool := hasKeyword v p "suspend"

def headSymbol (v : View) (kind : SymbolKind) (p : Place) (name : String) (children : List Symbol := []) :
    Symbol :=
  v.symbol p kind name (v.head p) (v.doc comments p) children

def properties (v : View) (p : Place) : List Symbol :=
  ((bodyMembers p).filter (·.kind == "property_declaration")).filterMap fun member =>
    (propertyName? v member).map (headSymbol v .property member ·)

def methods (v : View) (p : Place) : List Symbol :=
  (methodsOf v p).map fun (member, name) =>
    headSymbol v (if isSuspend v member then .suspendMethod else .method) member name

def enumEntries (v : View) (p : Place) : List Symbol :=
  ((bodyMembers p).filter (·.kind == "enum_entry")).filterMap fun member =>
    (declarationName? v member).map fun name => v.symbol member .enumConstant name (v.collapsed member)

def typeMembers (v : View) (p : Place) : List Symbol := properties v p ++ methods v p ++ enumEntries v p

def supertypeName (cs : List Char) : List Char :=
  Text.dropGenerics (Text.beforeFirst " by ".toList (cs.takeWhile (· != '(')))

def supertypes (v : View) (p : Place) : List String :=
  let specifiers :=
    match p.childOfKind? "delegation_specifiers" with
    | some list => list.namedChildren
    | none => p.namedChildren.filter (·.kind == "delegation_specifier")
  (specifiers.map fun q => String.ofList (supertypeName (v.chars q))).filter (· != "")

def typeFindings (v : View) (package : String) (kind : SymbolKind) (members : List Symbol) (p : Place)
    (name : String) : Findings :=
  let qualified := Package.qualify package name
  .ofSymbols [headSymbol v kind p qualified members] ++ .ofDeclared (methodsOf v p) ++
    .ofDependencies ((supertypes v p).map (.edge .inherits qualified))

def declarations (v : View) (kinds : List String) : List (Place × String) :=
  (v.root.namedDescendants kinds).filterMap fun p => (declarationName? v p).map (p, ·)

def classes : Pass := fun v found =>
  .concat (((declarations v typeKinds).filter (!isInterface v ·.1)).map fun (p, name) =>
    typeFindings v (Package.found found) (typeKind v p) (typeMembers v p) p name)

/-- The methods of an interface; none of them counts as suspending. -/
def interfaceMethods (v : View) (p : Place) : List Symbol :=
  (methodsOf v p).map fun (member, name) => headSymbol v .method member name

def interfaces : Pass := fun v found =>
  .concat (((declarations v ["class_declaration"]).filter (isInterface v ·.1)).map fun (p, name) =>
    typeFindings v (Package.found found) .interface (interfaceMethods v p) p name)

/-- Whether a function extends a type: its receiver is spelled out, or there is a dot before its
parameters. -/
def isExtension (v : View) (p : Place) : Bool :=
  let head := (v.chars p).takeWhile (· != '(')
  p.hasChild "receiver_type" || (Text.contains "fun ".toList head && head.contains '.')

def functionKind (v : View) (p : Place) : SymbolKind :=
  if isSuspend v p then .suspendFunction
  else if isExtension v p then .extensionFunction
  else .function

def functions : Pass := fun v _ =>
  let found := (declarations v ["function_declaration"]).filter (!·.1.isInside typeKinds)
  .ofDeclarations (found.map fun (p, name) => (p, headSymbol v (functionKind v p) p name))

def topProperties : Pass := fun v _ =>
  let found := (v.root.namedDescendants ["property_declaration"]).filter
    (!·.isInside (typeKinds ++ ["function_declaration"]))
  .ofSymbols (found.filterMap fun p => (propertyName? v p).map (headSymbol v .property p ·))

def annotationName (cs : List Char) : List Char :=
  let cs := ((Text.trim cs).dropWhile (· == '@')).takeWhile (· != '(')
  Text.trim (Text.afterLast ['.'] (Text.dropGenerics (Text.afterLast [':'] cs)))

def usages (v : View) : List (Place × String) :=
  (v.root.namedDescendants ["annotation"]).filterMap fun p =>
    let name := String.ofList (annotationName (v.chars p))
    if name == "" then none else some (p, name)

def annotatedKinds : List String :=
  ["class_declaration", "object_declaration", "function_declaration", "property_declaration"]

def annotated? (v : View) (p : Place) : Option String :=
  (p.ancestors.find? (·.isAny annotatedKinds)).bind fun q =>
    if q.kind == "property_declaration" then propertyName? v q else declarationName? v q

def annotations : Pass := fun v _ =>
  { symbols := distinctBy Symbol.name ((usages v).map fun (p, name) =>
      v.symbol p .annotationType name (v.collapsed p))
    dependencies := distinctBy Dependency.key ((usages v).filterMap fun (p, name) =>
      (annotated? v p).map fun target => .edge .annotatedWith target name) }

def callTarget? (call : Place) : Option Place :=
  call.namedChildren.head?.bind (Place.trailingName? ["navigation_expression", "navigation_suffix"] nameKinds)

def callSites (v : View) : List CallSite :=
  (v.root.namedDescendants ["call_expression"]).filterMap fun call =>
    (callTarget? call).map fun target => ⟨call, v.text target⟩

def calls : Pass := fun v found => callEdges callers found (callSites v)

def beforeCalls : List Pass := [packages, imports, classes, interfaces, functions, topProperties, annotations]

def passes : List Pass := beforeCalls ++ [calls]

end SourceAtlas.Kotlin
