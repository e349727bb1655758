import SourceAtlas.Extract.Findings
import SourceAtlas.Import.Rules

namespace SourceAtlas.ObjC

def comments : List String := ["comment"]

def callers : List String := ["method_definition", "method_declaration"]

def importPath (cs : List Char) : List Char := Text.dropBoth (fun c => c == '<' || c == '>' || c == '"') cs

def imports : Pass := fun v _ =>
  let nodes := (v.root.namedDescendants ["preproc_include"]).filterMap fun p =>
    (p.childByField? "path").or (p.childOfKinds? ["system_lib_string", "string_literal"])
  let paths := (nodes.map fun p => String.ofList (importPath (v.chars p))).filter (· != "")
  .ofDependencies (paths.map fun path => .ofImport path (Import.objcIsExternal path))

def isKeyword (p : Place) : Bool := p.kind == "identifier"

def isColon (p : Place) : Bool := p.kind == ":"

def parameterKeyword? (parameter : Place) : Option Place :=
  match parameter.children with
  | first :: second :: _ => if isKeyword first && isColon second then some first else none
  | _ => none

def closeLast : List (List Char) → List (List Char)
  | [] => []
  | [part] => [if part.getLast? = some ':' then part else part ++ [':']]
  | part :: parts => part :: closeLast parts

def addSelectorPart (v : View) (parts : List (List Char)) (child : Place) : List (List Char) :=
  if isKeyword child then parts ++ [v.chars child]
  else if isColon child || child.kind == "method_parameter" then
    match parameterKeyword? child with
    | some keyword => parts ++ [v.chars keyword ++ [':']]
    | none => closeLast parts
  else parts

def methodSelector? (v : View) (method : Place) : Option String :=
  let selector := (method.children.foldl (addSelectorPart v) []).flatten
  if selector.isEmpty then none else some (String.ofList selector)

def argumentKeyword? (argument : Place) : Option Place :=
  (argument.childByField? "keyword").or (argument.namedChildren.head?.filter isKeyword)

def argumentKeywords (v : View) (message : Place) : List (List Char) :=
  ((message.namedChildren.filter (·.kind == "keyword_argument")).filterMap argumentKeyword?).map fun p =>
    v.chars p ++ [':']

def keywordsIn (v : View) : List Place → List (List Char)
  | first :: second :: rest =>
    (if isKeyword first && isColon second then [v.chars first ++ [':']] else []) ++
      keywordsIn v (second :: rest)
  | _ => []

def afterReceiver (message receiver : Place) : List Place :=
  (message.children.dropWhile (·.address != receiver.address)).tail

def messageSelector? (v : View) (message : Place) : Option String :=
  let keywords := (argumentKeywords v message).flatten
  if !keywords.isEmpty then some (String.ofList keywords)
  else
    ((message.childByField? "receiver").or message.namedChildren.head?).bind fun receiver =>
      let rest := afterReceiver message receiver
      if !rest.any isColon then (rest.find? isKeyword).map v.text
      else
        let selector := (keywordsIn v rest).flatten
        if selector.isEmpty then none else some (String.ofList selector)

def nameKinds : List String := ["identifier", "field_identifier"]

/-- The name of a property: the first in its declarator, or else the last of all. -/
def propertyName? (v : View) (property : Place) : Option String :=
  let name :=
    match (property.namedDescendants ["struct_declarator"]).head? with
    | some declarator => (declarator.namedDescendants nameKinds).head?
    | none => (property.namedDescendants nameKinds).getLast?
  name.map v.text

def sectionKinds : List String := ["implementation_definition", "qualified_protocol_interface_declaration"]

def memberNodes (p : Place) : List Place :=
  p.namedChildren.flatMap fun child => if child.isAny sectionKinds then child.namedChildren else [child]

def methodsOf (v : View) (p : Place) : List (Place × String) :=
  ((memberNodes p).filter (·.isAny callers)).filterMap fun member =>
    (methodSelector? v member).map (member, ·)

def memberSymbol (v : View) (kind : SymbolKind) (member : Place) (name : String) : Symbol :=
  v.symbol member kind name (v.head member true) (v.doc comments member)

def methodKind (member : Place) : SymbolKind :=
  if member.kind == "method_definition" then .methodImplementation else .method

def members (v : View) (p : Place) : List Symbol :=
  (((memberNodes p).filter (·.kind == "property_declaration")).filterMap fun member =>
    (propertyName? v member).map (memberSymbol v .property member ·)) ++
    (methodsOf v p).map fun (member, name) => memberSymbol v (methodKind member) member name

structure ClassNames where
  className : Option String
  category : Option String
  inParentheses : Bool := false

def ClassNames.add (v : View) (names : ClassNames) (child : Place) : ClassNames :=
  if child.kind == "(" then { names with inParentheses := true }
  else if child.kind == ")" then { names with inParentheses := false }
  else if isKeyword child && names.className.isNone then { names with className := some (v.text child) }
  else if isKeyword child && names.inParentheses && names.category.isNone then
    { names with category := some (v.text child) }
  else names

def classNames (v : View) (p : Place) : ClassNames :=
  p.children.foldl (ClassNames.add v)
    { className := (p.childByField? "name").map v.text, category := (p.childByField? "category").map v.text }

def isCategory (p : Place) : Bool := p.hasChild "("

def categoryName (className category : String) : String := className ++ "(" ++ category ++ ")"

def superclass? (v : View) (p : Place) : Option String :=
  ((p.childByField? "superclass").or ((p.children.dropWhile (!isColon ·)).find? isKeyword)).map v.text

def protocolLists : List String :=
  ["protocol_qualifiers", "parameterized_arguments", "protocol_reference_list"]

def protocolNames (v : View) (p : Place) : List String :=
  ((p.children.filter (·.isAny protocolLists)).flatMap
    (·.namedDescendants ["identifier", "type_identifier"])).map v.text

def blockFindings (v : View) (kind : SymbolKind) (p : Place) (name : String) (edges : List Dependency) :
    Findings :=
  .ofSymbols [v.symbol p kind name (v.head p) (v.doc comments p) (members v p)] ++
    .ofDeclared (methodsOf v p) ++ .ofDependencies edges

def interfaceFindings (v : View) (p : Place) : Findings :=
  match (classNames v p).className with
  | none => {}
  | some name =>
    blockFindings v .interface p name
      ((superclass? v p).toList.map (.edge .inherits name) ++ (protocolNames v p).map (.edge .conforms name))

def implementationFindings (v : View) (p : Place) : Findings :=
  match (classNames v p).className, (classNames v p).category with
  | some className, some category => blockFindings v .implementation p (categoryName className category) []
  | some className, none => blockFindings v .implementation p className []
  | none, _ => {}

def classes : Pass := fun v _ =>
  if v.path.isHeader then
    .concat (((v.root.namedDescendants ["class_interface"]).filter (!isCategory ·)).map (interfaceFindings v))
  else .concat ((v.root.namedDescendants ["class_implementation"]).map (implementationFindings v))

def protocolFindings (v : View) (p : Place) : Findings :=
  match ((p.childByField? "name").or (p.childOfKind? "identifier")).map v.text with
  | none => {}
  | some name => blockFindings v .protocol p name ((protocolNames v p).map (.edge .inherits name))

def protocols : Pass := fun v _ =>
  .concat ((v.root.namedDescendants ["protocol_declaration"]).map (protocolFindings v))

def categoryFindings (v : View) (p : Place) : Findings :=
  match (classNames v p).className, (classNames v p).category with
  | some className, some category =>
    let name := categoryName className category
    blockFindings v .category p name [.edge .inherits name className]
  | _, _ => {}

def categories : Pass := fun v _ =>
  .concat (((v.root.namedDescendants ["class_interface"]).filter isCategory).map (categoryFindings v))

def callSites (v : View) : List CallSite :=
  (v.root.namedDescendants ["message_expression"]).filterMap fun message =>
    (messageSelector? v message).map (⟨message, ·⟩)

def calls : Pass := fun v found => callEdges callers found (callSites v)

def beforeCalls : List Pass := [imports, classes, protocols, categories]

def passes : List Pass := beforeCalls ++ [calls]

end SourceAtlas.ObjC
