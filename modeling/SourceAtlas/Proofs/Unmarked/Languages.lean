import SourceAtlas.Extract.Go
import SourceAtlas.Extract.Java
import SourceAtlas.Extract.JavaScript
import SourceAtlas.Extract.Kotlin
import SourceAtlas.Extract.Python
import SourceAtlas.Extract.Swift
import SourceAtlas.Proofs.Unmarked.Views

namespace SourceAtlas

namespace Go

variable (v : View) (p : Place)

namespace TypeDefinition

def unmarked (d : TypeDefinition) : TypeDefinition := ⟨d.name.unmarked, d.body.unmarked, d.node.unmarked⟩

@[simp] lemma unmarked_name (d : TypeDefinition) : d.unmarked.name = d.name.unmarked := rfl

@[simp] lemma unmarked_body (d : TypeDefinition) : d.unmarked.body = d.body.unmarked := rfl

@[simp] lemma unmarked_node (d : TypeDefinition) : d.unmarked.node = d.node.unmarked := rfl

end TypeDefinition

@[simp] lemma typeDefinitions_unmarked :
    typeDefinitions v.unmarked = (typeDefinitions v).map TypeDefinition.unmarked := by
  have hmatch (m : Match) :
      TypeDefinition.ofMatch? m.unmarked = (TypeDefinition.ofMatch? m).map TypeDefinition.unmarked := by
    simp only [TypeDefinition.ofMatch?, Match.place?_unmarked]
    cases m.place? "name" <;> cases m.place? "body" <;> cases m.place? "definition" <;> rfl
  simp [typeDefinitions, List.map_filterMap, hmatch]

@[simp] lemma fieldDeclarations_unmarked : fieldDeclarations p.unmarked = (fieldDeclarations p).map Place.unmarked := by
  simp only [fieldDeclarations, Place.childOfKind?_unmarked]
  cases p.childOfKind? "field_declaration_list" <;> simp [List.filter_map, Function.comp_def]

@[simp] lemma importPath_unmarked : importPath v.unmarked p.unmarked = importPath v p := by
  simp [importPath]

@[simp] lemma fieldNames_unmarked : fieldNames v.unmarked p.unmarked = fieldNames v p := by
  simp [fieldNames, List.filter_map, Function.comp_def]

@[simp] lemma fieldType_unmarked : fieldType v.unmarked p.unmarked = fieldType v p := by
  simp [fieldType, Function.comp_def]

@[simp] lemma fieldSymbols_unmarked : fieldSymbols v.unmarked p.unmarked = fieldSymbols v p := by
  simp [fieldSymbols]

@[simp] lemma embeddedField_unmarked (owner : String) :
    embeddedField v.unmarked owner p.unmarked = embeddedField v owner p := by
  simp [embeddedField]

@[simp] lemma structSymbol_unmarked (d : TypeDefinition) : structSymbol v.unmarked d.unmarked = structSymbol v d := by
  simp [structSymbol, typeDoc, List.flatMap_map]

@[simp] lemma interfaceSymbol_unmarked (d : TypeDefinition) :
    interfaceSymbol v.unmarked d.unmarked = interfaceSymbol v d := by
  simp [interfaceSymbol, typeDoc, interfaceMethods, List.filter_map, Function.comp_def]

lemma ignoresMarks_passes (moduleName : Option String) : ∀ pass ∈ passes moduleName, pass.IgnoresMarks := by
  simp only [passes, beforeCalls, List.cons_append, List.nil_append, List.forall_mem_cons, List.not_mem_nil,
    false_imp_iff, implies_true, and_true]
  refine ⟨?_, ?_, ?_, ?_, ?_, ?_, ?_, ?_⟩ <;> intro v found
  · simp [packages, bind_unmarked, -Option.map_bind, Option.toList_map, Function.comp_def]
  · simp [imports, Function.comp_def]
  · simp [functions, functionSymbol, Findings.ofDeclarations, Function.comp_def]
  · simp [methods, functionSymbol, Findings.ofDeclarations, Function.comp_def]
  · simp [structs, List.filter_map, List.flatMap_map, Function.comp_def]
  · simp [interfaces, List.filter_map, List.flatMap_map, Function.comp_def]
  · simp [types, typeDoc, List.filter_map, Function.comp_def]
  · exact calls_unmarked (by simp [callSites, CallSite.unmarked]) found

end Go

namespace JavaScript

variable (v : View) (p : Place)

@[simp] lemma isTyped_unmarked : isTyped v.unmarked = isTyped v := rfl

@[simp] lemma doc_unmarked : doc v.unmarked p.unmarked = doc v p := by
  simp [doc]

@[simp] lemma head_unmarked : head v.unmarked p.unmarked = head v p := by
  by_cases h : isTyped v = true <;> simp [head, h, List.filter_map, Function.comp_def]

@[simp] lemma isAsync_unmarked : isAsync p.unmarked = isAsync p := by
  simp [isAsync]

@[simp] lemma isAsyncAround_unmarked : isAsyncAround p.unmarked = isAsyncAround p := by
  simp [isAsyncAround, Option.any_map]

@[simp] lemma specifier_unmarked : specifier v.unmarked p.unmarked = specifier v p := by
  simp [specifier]

@[simp] lemma functionKind_unmarked : functionKind v.unmarked p.unmarked = functionKind v p := by
  simp only [functionKind, Place.unmarked_kind, View.chars_unmarked, isAsyncAround_unmarked]

@[simp] lemma functionSymbol_unmarked (d : Definition) :
    functionSymbol v.unmarked d.unmarked = functionSymbol v d := by
  simp [functionSymbol]

@[simp] lemma boundSymbol_unmarked (kind : SymbolKind) (d : Definition) :
    boundSymbol v.unmarked kind d.unmarked = boundSymbol v kind d := by
  simp [boundSymbol, bindingDoc, bind_unmarked, -Option.map_bind, Function.comp_def]

@[simp] lemma heritage_unmarked : heritage p.unmarked = (heritage p).map Place.unmarked := by
  simp only [heritage, Place.childOfKind?_unmarked]
  cases p.childOfKind? "class_heritage" <;> simp

@[simp] lemma isBase_unmarked : isBase p.unmarked = isBase p := by
  simp [isBase]

@[simp] lemma baseIn?_unmarked : baseIn? p.unmarked = (baseIn? p).map Place.unmarked := by
  simp only [baseIn?, Place.unmarked_kind, isBase_unmarked, Place.namedChildren_unmarked,
    Place.find?_unmarked isBase_unmarked]
  split_ifs <;> rfl

@[simp] lemma members_unmarked (kinds : List String) :
    members v.unmarked kinds p.unmarked = (members v kinds p).map (Prod.map Place.unmarked id) := by
  simp only [members, Place.childOfKind?_unmarked]
  cases p.childOfKind? "class_body" <;>
    simp [memberName?, List.filter_map, List.map_filterMap, Function.comp_def]

@[simp] lemma classFindings_unmarked (d : Definition) : classFindings v.unmarked d.unmarked = classFindings v d := by
  have hbase : base? v.unmarked d.node.unmarked = base? v d.node := by
    simp [base?, List.findSome?_map, Function.comp_def]
  have himplemented : implemented v.unmarked d.node.unmarked = implemented v d.node := by
    simp [implemented, List.filter_map, List.flatMap_map, Function.comp_def]
  simp [classFindings, methods, methodSymbol, methodKind, propertySymbol, hbase, himplemented, Function.comp_def]

@[simp] lemma interfaceMember?_unmarked : interfaceMember? v.unmarked p.unmarked = interfaceMember? v p := by
  simp [interfaceMember?, Function.comp_def]

@[simp] lemma interfaceFindings_unmarked (d : Definition) :
    interfaceFindings v.unmarked d.unmarked = interfaceFindings v d := by
  simp only [interfaceFindings, Definition.unmarked_node, Definition.unmarked_name, Place.childByField?_unmarked,
    Place.childOfKind?_unmarked]
  cases d.node.childByField? "body" <;> cases d.node.childOfKind? "extends_type_clause" <;> simp [Function.comp_def]

lemma ignoresMarks_passes : ∀ pass ∈ passes, pass.IgnoresMarks := by
  simp only [passes, beforeCalls, List.cons_append, List.nil_append, List.forall_mem_cons, List.not_mem_nil,
    false_imp_iff, implies_true, and_true]
  refine ⟨?_, ?_, ?_, ?_, ?_, ?_, ?_, ?_⟩ <;> intro v found
  · simp only [imports, View.findAll_unmarked, ← List.map_append, View.captured_unmarked, List.map_map,
      Function.comp_def, specifier_unmarked]
  · simp [exportStatements, Function.comp_def]
  · simp [functions, Findings.ofDeclarations, Function.comp_def]
  · simp [arrowFunctions, Findings.ofDeclarations, Function.comp_def]
  · simp [classes, Function.comp_def]
  · simp [interfaces, Function.comp_def]
  · simp [typeAliases, Function.comp_def]
  · exact calls_unmarked (by simp [callSites, CallSite.unmarked]) found

end JavaScript

namespace Python

variable (v : View) (p : Place)

@[simp] lemma leadingString?_unmarked : leadingString? p.unmarked = (leadingString? p).map Place.unmarked := by
  have hrest : p.unmarked.children.dropWhile (·.kind == "comment") =
      (p.children.dropWhile (·.kind == "comment")).map Place.unmarked := by
    simp [List.dropWhile_map, Function.comp_def]
  rw [leadingString?, hrest, leadingString?]
  cases p.children.dropWhile (·.kind == "comment") with
  | nil => rfl
  | cons first rest =>
    simp only [List.map_cons, Place.unmarked_kind, Place.childOfKind?_unmarked]
    split_ifs <;> rfl

@[simp] lemma docstring_unmarked : docstring v.unmarked p.unmarked = docstring v p := by
  simp [docstring]

@[simp] lemma bodyDoc_unmarked : bodyDoc v.unmarked p.unmarked = bodyDoc v p := by
  simp [bodyDoc, bind_unmarked, -Option.map_bind, Function.comp_def]

@[simp] lemma decorators_unmarked : decorators v.unmarked p.unmarked = decorators v p := by
  simp only [decorators, Place.parent?_unmarked, Option.filter_map, Function.comp_def, Place.unmarked_kind]
  cases p.parent?.filter (·.kind == "decorated_definition") <;> simp [List.filter_map, Function.comp_def]

@[simp] lemma isAsync_unmarked : isAsync p.unmarked = isAsync p := by
  simp [isAsync]

@[simp] lemma isInClass_unmarked : isInClass p.unmarked = isInClass p := by
  simp [isInClass]

@[simp] lemma functionSignature_unmarked : functionSignature v.unmarked p.unmarked = functionSignature v p := by
  simp [functionSignature]

@[simp] lemma bases_unmarked : bases v.unmarked p.unmarked = bases v p := by
  simp only [bases, Place.childOfKind?_unmarked]
  cases p.childOfKind? "argument_list" <;> simp [List.filter_map, Function.comp_def]

@[simp] lemma methodOf?_unmarked : methodOf? p.unmarked = (methodOf? p).map Place.unmarked := by
  simp only [methodOf?, Place.unmarked_kind]
  split_ifs <;> simp [Option.filter_map, Function.comp_def]

@[simp] lemma methodDefinitions_unmarked :
    methodDefinitions p.unmarked = (methodDefinitions p).map Definition.unmarked := by
  simp only [methodDefinitions, Place.childOfKind?_unmarked]
  cases p.childOfKind? "block" with
  | none => rfl
  | some block =>
    simp only [Option.map_some, Place.namedChildren_unmarked, filterMap_unmarked methodOf?_unmarked,
      List.filterMap_map]
    simp [List.map_filterMap, Definition.unmarked, Function.comp_def]

@[simp] lemma methodKind_unmarked : methodKind v.unmarked p.unmarked = methodKind v p := by
  simp only [methodKind, decorators_unmarked, isAsync_unmarked]

@[simp] lemma methodSymbol_unmarked (d : Definition) : methodSymbol v.unmarked d.unmarked = methodSymbol v d := by
  simp [methodSymbol]

@[simp] lemma classFindings_unmarked (d : Definition) : classFindings v.unmarked d.unmarked = classFindings v d := by
  simp [classFindings, Function.comp_def]

lemma ignoresMarks_passes : ∀ pass ∈ passes, pass.IgnoresMarks := by
  simp only [passes, beforeCalls, List.cons_append, List.nil_append, List.forall_mem_cons, List.not_mem_nil,
    false_imp_iff, implies_true, and_true]
  refine ⟨?_, ?_, ?_, ?_, ?_⟩ <;> intro v found
  · simp [moduleDoc, Option.toList_map, Function.comp_def]
  · simp [imports, Function.comp_def]
  · simp [functions, functionSymbol, List.filter_map, Findings.ofDeclarations, Function.comp_def]
  · simp [classes, List.filter_map, Function.comp_def]
  · exact calls_unmarked (by simp [callSites, CallSite.unmarked]) found

end Python

namespace Kotlin

variable (v : View) (p : Place)

@[simp] lemma declarationName?_unmarked : declarationName? v.unmarked p.unmarked = declarationName? v p := by
  simp [declarationName?, ← Option.map_or, Function.comp_def]

@[simp] lemma propertyName?_unmarked : propertyName? v.unmarked p.unmarked = propertyName? v p := by
  rw [propertyName?, Place.childOfKind?_unmarked, propertyName?]
  cases p.childOfKind? "variable_declaration" <;> simp

@[simp] lemma keywordsOf_unmarked : keywordsOf v.unmarked p.unmarked = keywordsOf v p := by
  simp [keywordsOf, List.filter_map, List.flatMap_map, Function.comp_def]

@[simp] lemma hasKeyword_unmarked (keyword : String) :
    hasKeyword v.unmarked p.unmarked keyword = hasKeyword v p keyword := by
  simp [hasKeyword, keywords, List.takeWhile_map, List.flatMap_map, Function.comp_def]

@[simp] lemma isInterface_unmarked : isInterface v.unmarked p.unmarked = isInterface v p := by
  simp [isInterface]

@[simp] lemma declaredPackage_unmarked : declaredPackage v.unmarked = declaredPackage v := by
  simp only [declaredPackage, View.unmarked_root, Place.childOfKind?_unmarked]
  cases v.root.childOfKind? "package_header" <;> simp

@[simp] lemma unwrapMembers_unmarked : unwrapMembers p.unmarked = (unwrapMembers p).map Place.unmarked := by
  simp only [unwrapMembers, Place.unmarked_kind, Place.namedChildren_unmarked]
  split_ifs <;> rfl

@[simp] lemma bodyMembers_unmarked : bodyMembers p.unmarked = (bodyMembers p).map Place.unmarked := by
  simp only [bodyMembers, Place.childOfKinds?_unmarked]
  cases p.childOfKinds? ["class_body", "enum_class_body"] <;> simp [flatMap_unmarked]

@[simp] lemma methodsOf_unmarked :
    methodsOf v.unmarked p.unmarked = (methodsOf v p).map (Prod.map Place.unmarked id) := by
  simp [methodsOf, List.filter_map, List.map_filterMap, Function.comp_def]

@[simp] lemma headSymbol_unmarked (kind : SymbolKind) (name : String) (children : List Symbol) :
    headSymbol v.unmarked kind p.unmarked name children = headSymbol v kind p name children := by
  simp [headSymbol]

@[simp] lemma isSuspend_unmarked : isSuspend v.unmarked p.unmarked = isSuspend v p := by
  simp [isSuspend]

@[simp] lemma typeMembers_unmarked : typeMembers v.unmarked p.unmarked = typeMembers v p := by
  simp [typeMembers, properties, methods, enumEntries, List.filter_map, Function.comp_def]

@[simp] lemma supertypes_unmarked : supertypes v.unmarked p.unmarked = supertypes v p := by
  simp only [supertypes, Place.childOfKind?_unmarked]
  cases p.childOfKind? "delegation_specifiers" <;> simp [List.filter_map, Function.comp_def]

@[simp] lemma typeFindings_unmarked (package : String) (kind : SymbolKind) (members : List Symbol) (name : String) :
    typeFindings v.unmarked package kind members p.unmarked name = typeFindings v package kind members p name := by
  simp [typeFindings]

@[simp] lemma declarations_unmarked (kinds : List String) :
    declarations v.unmarked kinds = (declarations v kinds).map (Prod.map Place.unmarked id) := by
  simp [declarations, List.map_filterMap, Function.comp_def]

@[simp] lemma isExtension_unmarked : isExtension v.unmarked p.unmarked = isExtension v p := by
  simp only [isExtension, View.chars_unmarked, Place.hasChild_unmarked]

@[simp] lemma usages_unmarked : usages v.unmarked = (usages v).map (Prod.map Place.unmarked id) := by
  simp only [usages, View.unmarked_root, Place.namedDescendants_unmarked, List.filterMap_map, List.map_filterMap,
    Function.comp_def, View.chars_unmarked]
  apply congrArg (List.filterMap · _)
  funext p
  generalize String.ofList (annotationName (v.chars p)) = name
  split <;> rfl

@[simp] lemma callTarget?_unmarked : callTarget? p.unmarked = (callTarget? p).map Place.unmarked := by
  simp [callTarget?, bind_unmarked, -Option.map_bind]

lemma ignoresMarks_passes : ∀ pass ∈ passes, pass.IgnoresMarks := by
  simp only [passes, beforeCalls, List.cons_append, List.nil_append, List.forall_mem_cons, List.not_mem_nil,
    false_imp_iff, implies_true, and_true]
  refine ⟨?_, ?_, ?_, ?_, ?_, ?_, ?_, ?_⟩ <;> intro v found
  · simp [packages]
  · simp [imports, Function.comp_def]
  · simp [classes, typeKind, List.filter_map, Function.comp_def]
  · simp [interfaces, interfaceMethods, List.filter_map, Function.comp_def]
  · simp [functions, functionKind, List.filter_map, Findings.ofDeclarations, Function.comp_def]
  · simp [topProperties, List.filter_map, Function.comp_def]
  · simp [annotations, annotated?, Option.bind_map, Function.comp_def]
  · exact calls_unmarked (by simp [callSites, CallSite.unmarked, List.map_filterMap, Function.comp_def]) found

end Kotlin

namespace Java

variable (v : View) (p : Place)

@[simp] lemma clauseTypes_unmarked (clause : String) :
    clauseTypes v.unmarked p.unmarked clause = clauseTypes v p clause := by
  simp only [clauseTypes, Place.childOfKind?_unmarked]
  cases p.childOfKind? clause with
  | none => rfl
  | some clause => cases h : clause.childOfKind? "type_list" <;> simp [h, List.filter_map, Function.comp_def]

@[simp] lemma memberName?_unmarked : memberName? v.unmarked p.unmarked = memberName? v p := by
  simp [memberName?, Function.comp_def]

@[simp] lemma membersOf_unmarked (kinds : List String) :
    membersOf v.unmarked kinds p.unmarked = (membersOf v kinds p).map (Prod.map Place.unmarked id) := by
  simp [membersOf, List.filter_map, List.map_filterMap, Function.comp_def]

@[simp] lemma methods_unmarked : methods v.unmarked p.unmarked = methods v p := by
  simp [methods, functionSymbol, Function.comp_def]

@[simp] lemma fieldSymbols_unmarked : fieldSymbols v.unmarked p.unmarked = fieldSymbols v p := by
  simp [fieldSymbols, Function.comp_def]

@[simp] lemma bodySymbols_unmarked : bodySymbols v.unmarked p.unmarked = bodySymbols v p := by
  simp [bodySymbols, fields, constructors, functionSymbol, List.filter_map, List.flatMap_map,
    Function.comp_def]

@[simp] lemma bodyDeclared_unmarked :
    bodyDeclared v.unmarked p.unmarked = (bodyDeclared v p).map (Prod.map Place.unmarked id) :=
  membersOf_unmarked v p callers

lemma typeFindings_unmarked {s s' : Symbol} {declared declared' : List (Place × String)}
    {edges edges' : List Dependency} (hs : s' = s) (hd : declared' = declared.map (Prod.map Place.unmarked id))
    (he : edges' = edges) : typeFindings s' declared' edges' = typeFindings s declared edges := by
  rw [typeFindings, hs, hd, he, Findings.ofDeclared_unmarked, typeFindings]

@[simp] lemma bodies_unmarked (kind : String) : bodies p.unmarked kind = (bodies p kind).map Place.unmarked := by
  simp [bodies, Option.toList_map]

@[simp] lemma classFindings_unmarked (package : String) (d : Definition) :
    classFindings v.unmarked package d.unmarked = classFindings v package d := by
  apply typeFindings_unmarked
  · simp [typeSymbol, List.flatMap_map]
  · simp [List.flatMap_map, List.map_flatMap]
  · simp [implementedEdges]

@[simp] lemma interfaceFindings_unmarked (package : String) (d : Definition) :
    interfaceFindings v.unmarked package d.unmarked = interfaceFindings v package d := by
  apply typeFindings_unmarked
  · simp [typeSymbol, List.flatMap_map]
  · simp [List.flatMap_map, List.map_flatMap]
  · simp

@[simp] lemma enumSymbols_unmarked : enumSymbols v.unmarked p.unmarked = enumSymbols v p := by
  simp [enumSymbols]

@[simp] lemma enumFindings_unmarked (package : String) (d : Definition) :
    enumFindings v.unmarked package d.unmarked = enumFindings v package d := by
  have hdeclared (entry : Place) :
      enumDeclared v.unmarked entry.unmarked = (enumDeclared v entry).map (Prod.map Place.unmarked id) := by
    simp only [enumDeclared, Place.unmarked_kind, bodyDeclared_unmarked]
    split_ifs <;> rfl
  apply typeFindings_unmarked
  · simp [typeSymbol, List.flatMap_map, List.flatMap_assoc]
  · simp [hdeclared, List.flatMap_map, List.map_flatMap, List.flatMap_assoc]
  · simp [implementedEdges]

@[simp] lemma components_unmarked : components v.unmarked p.unmarked = components v p := by
  simp only [components, Place.childByField?_unmarked]
  cases p.childByField? "parameters" <;> simp [Function.comp_def]

@[simp] lemma recordFindings_unmarked (package : String) (d : Definition) :
    recordFindings v.unmarked package d.unmarked = recordFindings v package d := by
  apply typeFindings_unmarked
  · simp [typeSymbol, List.flatMap_map]
  · simp [List.flatMap_map, List.map_flatMap]
  · simp [implementedEdges]

@[simp] lemma declaredName?_unmarked : declaredName? v.unmarked p.unmarked = declaredName? v p := by
  simp only [declaredName?, Place.unmarked_kind, Place.childOfKind?_unmarked]
  cases p.childOfKind? "variable_declarator" <;> simp

@[simp] lemma annotated?_unmarked : annotated? v.unmarked p.unmarked = annotated? v p := by
  rw [annotated?, Place.ancestors_unmarked, Place.find?_unmarked fun q => by rw [Place.unmarked_isAny], annotated?]
  cases p.ancestors.find? (·.isAny annotatedKinds) <;> simp

lemma ignoresMarks_passes : ∀ pass ∈ passes, pass.IgnoresMarks := by
  simp only [passes, beforeCalls, List.cons_append, List.nil_append, List.forall_mem_cons, List.not_mem_nil,
    false_imp_iff, implies_true, and_true]
  refine ⟨?_, ?_, ?_, ?_, ?_, ?_, ?_, ?_⟩ <;> intro v found
  · have hname : (v.unmarked.findAll packagePattern).head?.bind (·.place? "name") =
        ((v.findAll packagePattern).head?.bind (·.place? "name")).map Place.unmarked := by
      rw [View.findAll_unmarked, List.head?_map]
      cases (v.findAll packagePattern).head? <;> simp
    rw [packages, hname, packages]
    cases (v.findAll packagePattern).head?.bind (·.place? "name") <;> simp
  · simp [imports, Function.comp_def]
  · simp [classes, Function.comp_def]
  · simp [interfaces, Function.comp_def]
  · simp [enums, Function.comp_def]
  · simp [records, Function.comp_def]
  · simp [annotations, annotationEdges, Function.comp_def]
  · exact calls_unmarked (by simp [callSites, CallSite.unmarked]) found

end Java

namespace Swift

variable (v : View) (p : Place)

@[simp] lemma keyword?_unmarked : keyword? p.unmarked = keyword? p := by
  simp only [keyword?, Place.childByField?_unmarked]
  cases p.childByField? "declaration_kind" <;> simp [Function.comp_def]

@[simp] lemma inherited_unmarked : inherited v.unmarked p.unmarked = inherited v p := by
  simp [inherited, List.filter_map, Function.comp_def]

@[simp] lemma memberName?_unmarked : memberName? v.unmarked p.unmarked = memberName? v p := by
  simp [memberName?, ← Option.map_or, Function.comp_def]

@[simp] lemma headSymbol_unmarked (kind : SymbolKind) (name : String) (children : List Symbol) :
    headSymbol v.unmarked kind p.unmarked name children = headSymbol v kind p name children := by
  simp [headSymbol]

@[simp] lemma propertyKind_unmarked : propertyKind v.unmarked p.unmarked = propertyKind v p := by
  simp only [propertyKind, View.chars_unmarked]

@[simp] lemma propertySymbol?_unmarked : propertySymbol? v.unmarked p.unmarked = propertySymbol? v p := by
  simp [propertySymbol?, propertyName?, ← Option.map_or, bind_unmarked, -Option.map_bind, Function.comp_def]

@[simp] lemma bodyMembers_unmarked : bodyMembers p.unmarked = (bodyMembers p).map Place.unmarked := by
  simp only [bodyMembers, Place.childByField?_unmarked, Place.childOfKinds?_unmarked, ← Option.map_or]
  cases (p.childByField? "body").or (p.childOfKinds? ["class_body", "enum_class_body", "protocol_body"]) <;> simp

@[simp] lemma callables_unmarked :
    callables v.unmarked p.unmarked = (callables v p).map (Prod.map Place.unmarked id) := by
  simp [callables, callableName?, List.map_filterMap, Function.comp_def]

@[simp] lemma enumCases_unmarked : enumCases v.unmarked p.unmarked = enumCases v p := by
  simp [enumCases, List.filter_map, Function.comp_def]

@[simp] lemma members_unmarked : members v.unmarked p.unmarked = members v p := by
  simp [members, callableSymbol, List.filter_map, List.flatMap_map, Function.comp_def]

@[simp] lemma typeFindings_unmarked (kind : SymbolKind) (name : String) (edges : List Dependency) :
    typeFindings v.unmarked kind p.unmarked name edges = typeFindings v kind p name edges := by
  simp [typeFindings]

@[simp] lemma declarations_unmarked (kind : String) :
    declarations v.unmarked kind = (declarations v kind).map (Prod.map Place.unmarked id) := by
  simp [declarations, typeName?, ← Option.map_or, List.map_filterMap, Function.comp_def]

@[simp] lemma declaredWith_unmarked (words : List String) :
    declaredWith v.unmarked words = (declaredWith v words).map (Prod.map Place.unmarked id) := by
  simp [declaredWith, List.filter_map, Function.comp_def]

lemma ignoresMarks_typePass (words : List String) (kind : SymbolKind) : (typePass words kind).IgnoresMarks := by
  intro v found
  simp [typePass, inheritanceEdges, Function.comp_def]

@[simp] lemma callTarget?_unmarked : callTarget? p.unmarked = (callTarget? p).map Place.unmarked := by
  simp [callTarget?, bind_unmarked, -Option.map_bind]

lemma ignoresMarks_passes : ∀ pass ∈ passes, pass.IgnoresMarks := by
  simp only [passes, beforeCalls, List.cons_append, List.nil_append, List.forall_mem_cons, List.not_mem_nil,
    false_imp_iff, implies_true, and_true]
  refine ⟨?_, ignoresMarks_typePass _ _, ignoresMarks_typePass _ _, ignoresMarks_typePass _ _, ?_, ?_, ?_, ?_, ?_⟩ <;>
    intro v found
  · simp [imports]
  · simp [protocols, Function.comp_def]
  · simp [extensions, Function.comp_def]
  · simp [functions, List.filter_map, Findings.ofDeclarations, List.map_filterMap, Function.comp_def]
  · simp [properties, List.filter_map, Function.comp_def]
  · exact calls_unmarked (by simp [callSites, CallSite.unmarked, List.map_filterMap, Function.comp_def]) found

end Swift

end SourceAtlas
