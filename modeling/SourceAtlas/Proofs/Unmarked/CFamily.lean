import SourceAtlas.Extract.Cpp
import SourceAtlas.Extract.ObjC
import SourceAtlas.Proofs.Unmarked.Views

namespace SourceAtlas

namespace ObjC

variable (v : View) (p : Place)

@[simp] lemma isKeyword_unmarked : isKeyword p.unmarked = isKeyword p := by
  simp [isKeyword]

@[simp] lemma isColon_unmarked : isColon p.unmarked = isColon p := by
  simp [isColon]

@[simp] lemma parameterKeyword?_unmarked :
    parameterKeyword? p.unmarked = (parameterKeyword? p).map Place.unmarked := by
  simp only [parameterKeyword?, Place.children_unmarked]
  rcases p.children with _ | ⟨first, _ | ⟨second, rest⟩⟩
  · rfl
  · rfl
  · simp only [List.map_cons, isKeyword_unmarked, isColon_unmarked]
    split_ifs <;> rfl

@[simp] lemma addSelectorPart_unmarked (parts : List (List Char)) :
    addSelectorPart v.unmarked parts p.unmarked = addSelectorPart v parts p := by
  simp only [addSelectorPart, isKeyword_unmarked, isColon_unmarked, Place.unmarked_kind, View.chars_unmarked,
    parameterKeyword?_unmarked]
  cases parameterKeyword? p <;> simp

@[simp] lemma methodSelector?_unmarked : methodSelector? v.unmarked p.unmarked = methodSelector? v p := by
  simp [methodSelector?, List.foldl_map]

@[simp] lemma argumentKeyword?_unmarked :
    argumentKeyword? p.unmarked = (argumentKeyword? p).map Place.unmarked := by
  simp [argumentKeyword?, Option.filter_map, Option.map_or, Function.comp_def]

@[simp] lemma argumentKeywords_unmarked : argumentKeywords v.unmarked p.unmarked = argumentKeywords v p := by
  simp only [argumentKeywords, Place.namedChildren_unmarked, List.filter_map, Function.comp_def, Place.unmarked_kind,
    filterMap_unmarked argumentKeyword?_unmarked]
  simp

@[simp] lemma keywordsIn_unmarked : (places : List Place) →
    keywordsIn v.unmarked (places.map Place.unmarked) = keywordsIn v places
  | [] => rfl
  | [_] => rfl
  | first :: second :: rest => by
    have ih := keywordsIn_unmarked (second :: rest)
    rw [List.map_cons] at ih
    simp [keywordsIn, ih]

@[simp] lemma afterReceiver_unmarked (receiver : Place) :
    afterReceiver p.unmarked receiver.unmarked = (afterReceiver p receiver).map Place.unmarked := by
  simp [afterReceiver, List.dropWhile_map, Function.comp_def]

@[simp] lemma messageSelector?_unmarked : messageSelector? v.unmarked p.unmarked = messageSelector? v p := by
  simp [messageSelector?, ← Option.map_or, Option.bind_map, Function.comp_def]

@[simp] lemma propertyName?_unmarked : propertyName? v.unmarked p.unmarked = propertyName? v p := by
  simp only [propertyName?, Place.namedDescendants_unmarked, List.head?_map]
  cases (p.namedDescendants ["struct_declarator"]).head? <;> simp [Function.comp_def]

@[simp] lemma memberNodes_unmarked : memberNodes p.unmarked = (memberNodes p).map Place.unmarked := by
  rw [memberNodes, Place.namedChildren_unmarked, flatMap_unmarked, memberNodes]
  intro child
  simp only [Place.unmarked_isAny, Place.namedChildren_unmarked]
  split_ifs <;> rfl

@[simp] lemma methodsOf_unmarked :
    methodsOf v.unmarked p.unmarked = (methodsOf v p).map (Prod.map Place.unmarked id) := by
  simp [methodsOf, List.filter_map, List.map_filterMap, Function.comp_def]

@[simp] lemma members_unmarked : members v.unmarked p.unmarked = members v p := by
  simp [members, memberSymbol, methodKind, List.filter_map, Function.comp_def]

@[simp] lemma ClassNames.add_unmarked (names : ClassNames) : names.add v.unmarked p.unmarked = names.add v p := by
  simp [ClassNames.add]

@[simp] lemma classNames_unmarked : classNames v.unmarked p.unmarked = classNames v p := by
  simp [classNames, List.foldl_map, Function.comp_def]

@[simp] lemma superclass?_unmarked : superclass? v.unmarked p.unmarked = superclass? v p := by
  simp [superclass?, List.dropWhile_map, ← Option.map_or, Function.comp_def]

@[simp] lemma protocolNames_unmarked : protocolNames v.unmarked p.unmarked = protocolNames v p := by
  simp [protocolNames, List.filter_map, List.flatMap_map, List.map_flatMap, Function.comp_def]

@[simp] lemma blockFindings_unmarked (kind : SymbolKind) (name : String) (edges : List Dependency) :
    blockFindings v.unmarked kind p.unmarked name edges = blockFindings v kind p name edges := by
  simp [blockFindings]

@[simp] lemma isCategory_unmarked : isCategory p.unmarked = isCategory p := by
  simp [isCategory]

@[simp] lemma interfaceFindings_unmarked : interfaceFindings v.unmarked p.unmarked = interfaceFindings v p := by
  simp [interfaceFindings]

@[simp] lemma implementationFindings_unmarked :
    implementationFindings v.unmarked p.unmarked = implementationFindings v p := by
  simp [implementationFindings]

@[simp] lemma protocolFindings_unmarked : protocolFindings v.unmarked p.unmarked = protocolFindings v p := by
  simp [protocolFindings, ← Option.map_or, Function.comp_def]

@[simp] lemma categoryFindings_unmarked : categoryFindings v.unmarked p.unmarked = categoryFindings v p := by
  simp [categoryFindings]

lemma ignoresMarks_passes : ∀ pass ∈ passes, pass.IgnoresMarks := by
  simp only [passes, beforeCalls, List.cons_append, List.nil_append, List.forall_mem_cons, List.not_mem_nil,
    false_imp_iff, implies_true, and_true]
  refine ⟨?_, ?_, ?_, ?_, ?_⟩ <;> intro v found
  · have hnodes (places : List Place) :
        (places.map Place.unmarked).filterMap (fun p =>
            (p.childByField? "path").or (p.childOfKinds? ["system_lib_string", "string_literal"])) =
          (places.filterMap fun p =>
            (p.childByField? "path").or (p.childOfKinds? ["system_lib_string", "string_literal"])).map Place.unmarked :=
      filterMap_unmarked fun p => by simp [Option.map_or]
    simp only [imports, View.unmarked_root, Place.namedDescendants_unmarked, hnodes, List.map_map, Function.comp_def,
      View.chars_unmarked]
  · simp [classes, List.filter_map, Function.comp_def]
  · simp [protocols, Function.comp_def]
  · simp [categories, List.filter_map, Function.comp_def]
  · exact calls_unmarked (by simp [callSites, CallSite.unmarked, List.map_filterMap, Function.comp_def]) found

end ObjC

namespace Cpp

variable (v : View) (p : Place)

@[simp] lemma inner?_unmarked : inner? p.unmarked = (inner? p).map Place.unmarked := by
  simp [inner?, Option.map_or]

@[simp] lemma declaredName?_unmarked : declaredName? p.unmarked = (declaredName? p).map Place.unmarked := by
  fun_induction declaredName? p with
  | case1 p hn => simp [declaredName?, hn]
  | case2 p hn hq name h ih =>
    rw [declaredName?, Place.unmarked_isAny, Place.unmarked_isAny, if_neg hn, if_pos hq]
    split <;> simp_all
  | case3 p hn hq h =>
    rw [declaredName?, Place.unmarked_isAny, Place.unmarked_isAny, if_neg hn, if_pos hq]
    split <;> simp_all
  | case4 p hn hq inner h ih =>
    rw [declaredName?, Place.unmarked_isAny, Place.unmarked_isAny, if_neg hn, if_neg hq]
    split <;> simp_all
  | case5 p hn hq h =>
    rw [declaredName?, Place.unmarked_isAny, Place.unmarked_isAny, if_neg hn, if_neg hq]
    split <;> simp_all

@[simp] lemma functionDeclaratorFrom?_unmarked :
    functionDeclaratorFrom? p.unmarked = (functionDeclaratorFrom? p).map Place.unmarked := by
  fun_induction functionDeclaratorFrom? p with
  | case1 p hk => simp [functionDeclaratorFrom?, hk]
  | case2 p hk hn => simp [functionDeclaratorFrom?, hk, hn]
  | case3 p hk hn inner h ih =>
    rw [functionDeclaratorFrom?, Place.unmarked_kind, Place.unmarked_isAny, if_neg hk, if_neg hn]
    split <;> simp_all
  | case4 p hk hn h =>
    rw [functionDeclaratorFrom?, Place.unmarked_kind, Place.unmarked_isAny, if_neg hk, if_neg hn]
    split <;> simp_all

@[simp] lemma functionName?_unmarked : functionName? p.unmarked = (functionName? p).map Place.unmarked := by
  simp [functionName?, functionDeclarator?, bind_unmarked, -Option.map_bind]

@[simp] lemma declaredNames_unmarked : declaredNames p.unmarked = (declaredNames p).map Place.unmarked := by
  rw [declaredNames, Place.childrenByField_unmarked, filterMap_unmarked declaredName?_unmarked, declaredNames]

@[simp] lemma isOperator_unmarked : isOperator p.unmarked = isOperator p := by
  simp [isOperator]

@[simp] lemma hasModifier_unmarked (keyword : String) :
    hasModifier v.unmarked p.unmarked keyword = hasModifier v p keyword := by
  simp [hasModifier, Function.comp_def]

@[simp] lemma isInTemplate_unmarked : isInTemplate p.unmarked = isInTemplate p := by
  simp [isInTemplate, Option.any_map]

@[simp] lemma isMember_unmarked : isMember p.unmarked = isMember p := by
  simp [isMember, Option.any_map]

@[simp] lemma doc_unmarked : doc v.unmarked p.unmarked = doc v p := by
  simp only [doc, Place.parent?_unmarked, Option.filter_map, Function.comp_def, Place.unmarked_kind]
  cases p.parent?.filter (·.kind == "template_declaration") <;> simp

@[simp] lemma typeName?_unmarked : typeName? v.unmarked p.unmarked = typeName? v p := by
  simp [typeName?, Function.comp_def]

@[simp] lemma headSymbol_unmarked (kind : SymbolKind) (keepSemicolon : Bool) (name : String) :
    headSymbol v.unmarked kind keepSemicolon p.unmarked name = headSymbol v kind keepSemicolon p name := by
  simp [headSymbol]

@[simp] lemma methodKind_unmarked (className name : String) :
    methodKind v.unmarked className name p.unmarked = methodKind v className name p := by
  simp [methodKind]

@[simp] lemma memberSymbols_unmarked (className : String) :
    memberSymbols v.unmarked className p.unmarked =
      (memberSymbols v className p).map (Prod.map Place.unmarked id) := by
  simp only [memberSymbols, Place.unmarked_kind, Place.unmarked_isAny, functionName?_unmarked, declaredNames_unmarked]
  split_ifs
  · cases functionName? p <;> simp
  · cases functionName? p <;> simp [Function.comp_def]
  · rfl

@[simp] lemma members_unmarked (className : String) :
    members v.unmarked className p.unmarked = (members v className p).map (Prod.map Place.unmarked id) := by
  simp [members, List.flatMap_map, List.map_flatMap]

@[simp] lemma definedMembers_unmarked (className : String) :
    definedMembers v.unmarked className p.unmarked =
      (definedMembers v className p).map (Prod.map Place.unmarked id) := by
  simp [definedMembers, List.filter_map, Function.comp_def]

namespace TypeBody

def unmarked (t : TypeBody) : TypeBody := ⟨t.node.unmarked, t.name, t.body.unmarked⟩

@[simp] lemma unmarked_node (t : TypeBody) : t.unmarked.node = t.node.unmarked := rfl

@[simp] lemma unmarked_name (t : TypeBody) : t.unmarked.name = t.name := rfl

@[simp] lemma unmarked_body (t : TypeBody) : t.unmarked.body = t.body.unmarked := rfl

end TypeBody

@[simp] lemma typeBodies_unmarked (kinds : List String) :
    typeBodies v.unmarked kinds = (typeBodies v kinds).map TypeBody.unmarked := by
  simp only [typeBodies, View.unmarked_root, Place.namedDescendants_unmarked, List.filterMap_map, List.map_filterMap,
    Function.comp_def, typeName?_unmarked, Place.childByField?_unmarked]
  congr 1
  funext p
  cases typeName? v p <;> cases p.childByField? "body" <;> rfl

@[simp] lemma memberedSymbol_unmarked (kind : SymbolKind) (keyword : String) (t : TypeBody) :
    memberedSymbol v.unmarked kind keyword t.unmarked = memberedSymbol v kind keyword t := by
  simp [memberedSymbol, Function.comp_def]

@[simp] lemma baseEdges_unmarked : baseEdges v.unmarked p.unmarked = baseEdges v p := by
  simp only [baseEdges, typeName?_unmarked, Place.childOfKind?_unmarked]
  cases typeName? v p <;> cases p.childOfKind? "base_class_clause" <;> simp [List.filter_map, Function.comp_def]

@[simp] lemma isOverride_unmarked : isOverride v.unmarked p.unmarked = isOverride v p := by
  simp only [isOverride, Place.childByField?_unmarked, Option.map_map, Place.namedDescendants_unmarked, List.any_map,
    Function.comp_def, Place.unmarked_node, Node.unmarked_start, Node.unmarked_stop, View.chars_unmarked]

@[simp] lemma overrideEdges_unmarked (t : TypeBody) : overrideEdges v.unmarked t.unmarked = overrideEdges v t := by
  simp only [overrideEdges, TypeBody.unmarked_body, TypeBody.unmarked_name, Place.namedChildren_unmarked,
    List.filter_map, Function.comp_def, isOverride_unmarked, filterMap_unmarked functionName?_unmarked]
  simp

@[simp] lemma named_unmarked (kinds : List String) :
    named v.unmarked kinds = (named v kinds).map (Prod.map Place.unmarked id) := by
  simp [named, List.map_filterMap, Function.comp_def]

@[simp] lemma templateFindings_unmarked : templateFindings v.unmarked p.unmarked = templateFindings v p := by
  have htemplated : templated? p.unmarked = (templated? p).map Place.unmarked := by
    rw [templated?, Place.namedChildren_unmarked, Place.find?_unmarked fun q => by rw [Place.unmarked_isAny]]
    rfl
  have hname (q : Place) : templatedName? v.unmarked q.unmarked = templatedName? v q := by
    simp [templatedName?, Function.comp_def]
  simp only [templateFindings, htemplated]
  cases templated? p with
  | none => rfl
  | some q =>
    simp only [Option.map_some, Option.bind_some, hname]
    cases templatedName? v q with
    | none => rfl
    | some found =>
      simp only [Option.map_some, Place.unmarked_kind, View.symbol_unmarked, View.head_unmarked, View.doc_unmarked]
      split_ifs <;> simp [Findings.ofDeclared]

@[simp] lemma functionNodes_unmarked (kind : String) :
    functionNodes v.unmarked kind = (functionNodes v kind).map (Prod.map Place.unmarked Place.unmarked) := by
  simp [functionNodes, List.map_filterMap, Function.comp_def]

@[simp] lemma definedFunctions_unmarked :
    definedFunctions v.unmarked = (definedFunctions v).map (Prod.map Place.unmarked id) := by
  simp [definedFunctions, functionKind, List.filter_map, Function.comp_def]

@[simp] lemma prototypes_unmarked : prototypes v.unmarked = (prototypes v).map (Prod.map Place.unmarked id) := by
  simp [prototypes, List.filter_map, Function.comp_def]

@[simp] lemma definedOperators_unmarked :
    definedOperators v.unmarked = (definedOperators v).map (Prod.map Place.unmarked id) := by
  simp [definedOperators, List.filter_map, Function.comp_def]

@[simp] lemma callee?_unmarked : callee? v.unmarked p.unmarked = callee? v p := by
  simp only [callee?, Place.unmarked_isAny, Place.unmarked_kind, Place.childByField?_unmarked]
  split_ifs <;> simp [Function.comp_def]

lemma callSites_unmarked : callSites v.unmarked = (callSites v).map CallSite.unmarked := by
  by_cases h : v.path.isHeader = true <;>
    simp [callSites, h, CallSite.unmarked, List.map_filterMap, Option.bind_map, Function.comp_def]

lemma ignoresMarks_passes : ∀ pass ∈ passes, pass.IgnoresMarks := by
  simp only [passes, beforeCalls, List.cons_append, List.nil_append, List.forall_mem_cons, List.not_mem_nil,
    false_imp_iff, implies_true, and_true]
  refine ⟨?_, ?_, ?_, ?_, ?_, ?_, ?_, ?_, ?_, ?_, ?_, ?_, ?_, ?_⟩ <;> intro v found
  · simp only [includes, View.unmarked_root, Place.namedDescendants_unmarked,
      filterMap_unmarked (f := (·.childByField? "path")) (·.childByField?_unmarked "path")]
    simp
  · simp [namespaces, Function.comp_def]
  · simp [classes, classSymbol, Function.comp_def]
  · simp [unions, Function.comp_def]
  · simp [enums, enumConstants, Function.comp_def]
  · simp [templates, Function.comp_def]
  · simp [functions, Function.comp_def]
  · simp [operators]
  · simp [typedefs, List.flatMap_map, List.filter_map, Function.comp_def]
  · simp [macros, macroKind, Function.comp_def]
  · exact calls_unmarked (callSites_unmarked v) found
  · simp [inheritance, List.flatMap_map]
  · simp [overrides, List.flatMap_map]
  · simp [templateUses]

end Cpp

end SourceAtlas
