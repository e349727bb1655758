import SourceAtlas.Distinct
import SourceAtlas.Extract.Cpp.Types
import SourceAtlas.Import.Rules
import SourceAtlas.Text.Find

namespace SourceAtlas.Cpp

def callers : List String := ["function_definition"]

def templateUsers : List String := "function_definition" :: classKinds

def includePath (cs : List Char) : List Char := Text.dropBoth (fun c => c == '<' || c == '>' || c == '"') cs

def includes : Pass := fun v _ =>
  let paths := (v.root.namedDescendants ["preproc_include"]).filterMap (·.childByField? "path")
  .ofDependencies (paths.filterMap fun p =>
    let path := String.ofList (includePath (v.chars p))
    if path == "" then none
    else some (.ofImport path (Import.cIsExternal path (p.kind == "system_lib_string"))))

def named (v : View) (kinds : List String) : List (Place × String) :=
  (v.root.namedDescendants kinds).filterMap fun p => (typeName? v p).map (p, ·)

def namespaces : Pass := fun v _ =>
  .ofSymbols ((named v ["namespace_definition"]).map fun (p, name) =>
    v.symbol p .namespaceBlock name ("namespace " ++ name) (doc v p))

def templated? (template : Place) : Option Place :=
  template.namedChildren.find?
    (·.isAny (classKinds ++ ["function_definition", "declaration", "alias_declaration"]))

def templatedName? (v : View) (p : Place) : Option (String × SymbolKind) :=
  if p.isAny classKinds then (typeName? v p).map (·, .classTemplate)
  else if p.kind == "function_definition" then
    (functionName? p).map fun name => (v.text name, .functionTemplate)
  else if p.kind == "alias_declaration" then (typeName? v p).map (·, .template)
  else (functionName? p).map fun name => (v.text name, .template)

def templateFindings (v : View) (template : Place) : Findings :=
  match (templated? template).bind fun p => (templatedName? v p).map (p, ·) with
  | none => {}
  | some (p, name, kind) =>
    .ofDeclared (if p.kind == "function_definition" then [(p, name)] else []) ++
      .ofSymbols [v.symbol template kind name (v.head template true) (v.doc comments template)]

def templates : Pass := fun v _ =>
  .concat ((v.root.namedDescendants ["template_declaration"]).map (templateFindings v))

def functionKind (v : View) (p : Place) : SymbolKind :=
  if hasModifier v p "inline" then .inlineFunction
  else if hasModifier v p "static" then .staticFunction
  else .function

def functionNodes (v : View) (kind : String) : List (Place × Place) :=
  (v.root.namedDescendants [kind]).filterMap fun p => (functionName? p).map (p, ·)

def definedFunctions (v : View) : List (Place × Symbol) :=
  ((functionNodes v "function_definition").filter fun (p, name) =>
    !isMember p && !isInTemplate p && !isOperator name).map fun (p, name) =>
    (p, headSymbol v (functionKind v p) false p (v.text name))

def prototypes (v : View) : List (Place × Symbol) :=
  ((functionNodes v "declaration").filter fun (p, _) =>
    !isMember p && !isInTemplate p && !p.isInside callers).map fun (p, name) =>
    (p, headSymbol v .functionDeclaration true p (v.text name))

def functions : Pass := fun v _ =>
  .ofDeclarations (definedFunctions v) ++ .ofSymbols ((prototypes v).map (·.2))

def definedOperators (v : View) : List (Place × Symbol) :=
  ((functionNodes v "function_definition").filter fun (p, name) => !isMember p && isOperator name).map
    fun (p, name) => (p, headSymbol v .operator false p (v.text name))

def operators : Pass := fun v _ => .ofDeclarations (definedOperators v)

def typedefs : Pass := fun v _ =>
  .ofSymbols
    (((v.root.namedDescendants ["type_definition"]).flatMap fun p =>
      (declaredNames p).map fun name => headSymbol v .typedef true p (v.text name)) ++
      ((named v ["alias_declaration"]).filter (!isInTemplate ·.1)).map fun (p, name) =>
        headSymbol v .typeAlias true p name)

def macroKind (p : Place) : SymbolKind :=
  if p.kind == "preproc_function_def" then .functionMacro else .objectMacro

def macros : Pass := fun v _ =>
  .ofSymbols ((named v ["preproc_def", "preproc_function_def"]).map fun (p, name) =>
    v.symbol p (macroKind p) name (v.firstLine p) (doc v p))

/-- What a call calls, as written; of a member only its name. -/
def callee? (v : View) (function : Place) : Option String :=
  let name :=
    if function.isAny ["identifier", "qualified_identifier"] then some function
    else if function.kind == "field_expression" then function.childByField? "field"
    else if function.kind == "template_function" then function.childByField? "name"
    else none
  (name.map v.text).filter (· != "")

def callSites (v : View) : List CallSite :=
  if v.path.isHeader then []
  else (v.root.namedDescendants ["call_expression"]).filterMap fun call =>
    ((call.childByField? "function").bind (callee? v)).map (⟨call, ·⟩)

def calls : Pass := fun v found => callEdges callers found (callSites v)

def templateUses : Pass := fun v found =>
  .ofDependencies (distinctBy Dependency.key ((named v ["template_type"]).filterMap fun (p, template) =>
    (found.enclosing? templateUsers p).map fun user => .edge .uses user template))

def beforeCalls : List Pass :=
  [includes, namespaces, classes, unions, enums, templates, functions, operators, typedefs, macros]

def passes : List Pass := beforeCalls ++ [calls, inheritance, overrides, templateUses]

end SourceAtlas.Cpp
