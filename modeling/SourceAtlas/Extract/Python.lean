import SourceAtlas.Extract.Findings
import SourceAtlas.Import.Rules

namespace SourceAtlas.Python

def leadingString? (body : Place) : Option Place :=
  match body.children.dropWhile (·.kind == "comment") with
  | [] => none
  | first :: _ => if first.kind == "expression_statement" then first.childOfKind? "string" else none

def docstring (v : View) (p : Place) : String := String.ofList (Text.cleanDocstring (v.chars p))

def bodyDoc (v : View) (definition : Place) : String :=
  (((definition.childOfKind? "block").bind leadingString?).map (docstring v)).getD ""

def decorators (v : View) (definition : Place) : List String :=
  match definition.parent?.filter (·.kind == "decorated_definition") with
  | none => []
  | some wrapper => (wrapper.children.filter (·.kind == "decorator")).map v.trimmed

def decorated (decorators : List String) (signature : String) : String :=
  String.intercalate "\n" (decorators ++ [signature])

def moduleDoc : Pass := fun v _ =>
  .ofSymbols ((leadingString? v.root).toList.map fun p =>
    v.symbol p .moduleDoc "__module__" "" (docstring v p))

def importPattern : Pattern :=
  let name := ((Pattern.ofKind "dotted_name").inField "name").captured "module"
  .either
    [.ofKind "import_statement" [name],
      .ofKind "import_statement" [(Pattern.ofKind "aliased_import" [name]).inField "name"],
      .ofKind "import_from_statement"
        [((Pattern.ofKind "dotted_name").inField "module_name").captured "module"],
      .ofKind "import_from_statement"
        [((Pattern.ofKind "relative_import").inField "module_name").captured "module"]]

def imports : Pass := fun v _ =>
  .ofDependencies (((v.placesOf "module" importPattern).map v.text).map fun name =>
    .ofImport name (Import.pythonIsExternal name))

def isAsync (definition : Place) : Bool := definition.hasChild "async"

def isInClass (p : Place) : Bool := p.isInside ["class_definition"]

def functionSignature (v : View) (definition : Place) : String :=
  decorated (decorators v definition) (v.colonHead definition)

def functionSymbol (v : View) (d : Definition) : Symbol :=
  v.symbol d.node (if isAsync d.node then .asyncFunction else .function) (v.text d.name)
    (functionSignature v d.node) (bodyDoc v d.node)

def functions : Pass := fun v _ =>
  let definitions := v.definitions (Definition.pattern "function_definition" "identifier")
  let found := definitions.filter (!isInClass ·.node)
  .ofDeclarations (found.map fun d => (d.node, functionSymbol v d))

def bases (v : View) (definition : Place) : List String :=
  match definition.childOfKind? "argument_list" with
  | none => []
  | some arguments => (arguments.namedChildren.filter (·.isAny ["identifier", "attribute"])).map v.text

def classHead (name : String) (bases : List String) : String :=
  if bases.isEmpty then "class " ++ name else "class " ++ name ++ "(" ++ String.intercalate ", " bases ++ ")"

def methodOf? (statement : Place) : Option Place :=
  if statement.kind == "function_definition" then some statement
  else if statement.kind == "decorated_definition" then
    (statement.childByField? "definition").filter (·.kind == "function_definition")
  else none

def methodDefinitions (definition : Place) : List Definition :=
  match definition.childOfKind? "block" with
  | none => []
  | some block => (block.namedChildren.filterMap methodOf?).filterMap fun method =>
    (method.childByField? "name").map (⟨·, method⟩)

def methodKind (v : View) (method : Place) : SymbolKind :=
  let has (decorator : String) := (decorators v method).any fun d => Text.contains decorator.toList d.toList
  if has "@staticmethod" then .staticMethod
  else if has "@classmethod" then .classMethod
  else if isAsync method then .asyncMethod
  else .method

def methodSymbol (v : View) (d : Definition) : Symbol :=
  v.symbol d.node (methodKind v d.node) (v.text d.name) (functionSignature v d.node) (bodyDoc v d.node)

def classFindings (v : View) (d : Definition) : Findings :=
  let name := v.text d.name
  let methods := methodDefinitions d.node
  { symbols :=
      [v.symbol d.node .classType name
        (decorated (decorators v d.node) (classHead name (bases v d.node))) (bodyDoc v d.node)
        (methods.map (methodSymbol v))]
    dependencies := (bases v d.node).map (.edge .inherits name)
    declared := methods.map fun m => (m.node.address, v.text m.name) }

def classes : Pass := fun v _ =>
  let definitions := v.definitions (Definition.pattern "class_definition" "identifier")
  let found := definitions.filter (!isInClass ·.node)
  .concat (found.map (classFindings v))

def callPattern : Pattern :=
  .ofKind "call"
    [((Pattern.either [.ofKind "identifier", .ofKind "attribute"]).inField "function").captured "target"]

def callers : List String := ["function_definition"]

def callSites (v : View) : List CallSite :=
  (v.placesOf "target" callPattern).map fun p => ⟨p, v.text p⟩

def calls : Pass := fun v found => callEdges callers found (callSites v)

def beforeCalls : List Pass := [moduleDoc, imports, functions, classes]

def passes : List Pass := beforeCalls ++ [calls]

end SourceAtlas.Python
