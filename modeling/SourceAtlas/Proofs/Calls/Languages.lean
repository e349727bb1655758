import SourceAtlas.Extract.Cpp
import SourceAtlas.Extract.Go
import SourceAtlas.Extract.Java
import SourceAtlas.Extract.JavaScript
import SourceAtlas.Extract.Kotlin
import SourceAtlas.Extract.ObjC
import SourceAtlas.Extract.Python
import SourceAtlas.Extract.Swift
import SourceAtlas.Proofs.Calls.Grounded
import SourceAtlas.Proofs.Tree.Descendants

namespace SourceAtlas

open Findings

variable {v : View}

namespace Go

lemma quiet_embeddedField (owner : String) (declaration : Place) :
    Dependency.Quiet (embeddedField v owner declaration) := by
  unfold embeddedField
  dsimp only
  split <;> simp

lemma grounded_beforeCalls (moduleName : Option String) :
    ∀ pass ∈ beforeCalls moduleName, Pass.Grounded v pass := by
  simp only [beforeCalls, List.forall_mem_cons, List.not_mem_nil, false_imp_iff, implies_true, and_true]
  refine ⟨?_, ?_, ?_, ?_, ?_, ?_, ?_⟩ <;> intro found
  · exact grounded_ofSymbols _
  · exact grounded_ofDependencies (by simp)
  · exact grounded_ofDeclarations _
  · exact grounded_ofDeclarations _
  · exact grounded_of_no_declared rfl (by simp [structs, quiet_embeddedField])
  · exact grounded_of_no_declared rfl (by simp [interfaces])
  · exact grounded_ofSymbols _

end Go

namespace JavaScript

lemma grounded_classFindings (d : Definition) : (classFindings v d).Grounded := by
  refine grounded_of_symbol rfl ?_ (by simp [classFindings])
  intro e he
  obtain ⟨m, hm, rfl⟩ := List.mem_map.mp he
  refine List.mem_cons_of_mem _ (List.mem_map.mpr ⟨methodSymbol v m.1 m.2, ?_, rfl⟩)
  exact List.mem_append_left _ (List.mem_map_of_mem hm)

lemma grounded_beforeCalls : ∀ pass ∈ beforeCalls, Pass.Grounded v pass := by
  simp only [beforeCalls, List.forall_mem_cons, List.not_mem_nil, false_imp_iff, implies_true, and_true]
  refine ⟨?_, ?_, ?_, ?_, ?_, ?_, ?_⟩ <;> intro found
  · exact grounded_ofDependencies (by simp)
  · exact grounded_ofSymbols _
  · exact grounded_ofDeclarations _
  · exact grounded_ofDeclarations _
  · exact grounded_concat (List.forall_mem_map.mpr fun d _ => grounded_classFindings d)
  · unfold interfaces
    split
    · exact grounded_concat (List.forall_mem_map.mpr fun d _ =>
        grounded_of_no_declared rfl (by simp [interfaceFindings]))
    · exact grounded_empty
  · unfold typeAliases
    split
    · exact grounded_ofSymbols _
    · exact grounded_empty

end JavaScript

namespace Python

lemma grounded_classFindings (d : Definition) : (classFindings v d).Grounded := by
  refine grounded_of_symbol rfl ?_ (by simp [classFindings])
  intro e he
  obtain ⟨m, hm, rfl⟩ := List.mem_map.mp he
  exact List.mem_cons_of_mem _ (List.mem_map.mpr ⟨methodSymbol v m, List.mem_map_of_mem hm, rfl⟩)

lemma grounded_beforeCalls : ∀ pass ∈ beforeCalls, Pass.Grounded v pass := by
  simp only [beforeCalls, List.forall_mem_cons, List.not_mem_nil, false_imp_iff, implies_true, and_true]
  refine ⟨?_, ?_, ?_, ?_⟩ <;> intro found
  · exact grounded_ofSymbols _
  · exact grounded_ofDependencies (by simp)
  · exact grounded_ofDeclarations _
  · exact grounded_concat (List.forall_mem_map.mpr fun d _ => grounded_classFindings d)

end Python

namespace Kotlin

lemma grounded_typeFindings (package : String) (kind : SymbolKind) {members : List Symbol} (p : Place)
    (name : String) (h : ∀ m ∈ methodsOf v p, m.2 ∈ members.map (·.name)) :
    (typeFindings v package kind members p name).Grounded :=
  grounded_block h (by simp)

lemma grounded_beforeCalls : ∀ pass ∈ beforeCalls, Pass.Grounded v pass := by
  simp only [beforeCalls, List.forall_mem_cons, List.not_mem_nil, false_imp_iff, implies_true, and_true]
  refine ⟨?_, ?_, ?_, ?_, ?_, ?_, ?_⟩ <;> intro found
  · exact grounded_ofSymbols _
  · exact grounded_ofDependencies (by simp)
  · refine grounded_concat (List.forall_mem_map.mpr fun d _ => grounded_typeFindings _ _ _ _ fun m hm => ?_)
    have hs : headSymbol v (if isSuspend v m.1 then .suspendMethod else .method) m.1 m.2 ∈ methods v d.1 :=
      List.mem_map_of_mem hm
    exact List.mem_map.mpr ⟨_, List.mem_append_left _ (List.mem_append_right _ hs), rfl⟩
  · refine grounded_concat (List.forall_mem_map.mpr fun d _ => grounded_typeFindings _ _ _ _ fun m hm => ?_)
    have hs : headSymbol v .method m.1 m.2 ∈ interfaceMethods v d.1 := List.mem_map_of_mem hm
    exact List.mem_map.mpr ⟨_, hs, rfl⟩
  · exact grounded_ofDeclarations _
  · exact grounded_ofSymbols _
  · exact grounded_of_no_declared rfl (Dependency.Quiet.distinctBy (by simp))

end Kotlin

namespace Swift

lemma grounded_typeFindings (kind : SymbolKind) (p : Place) (name : String) {edges : List Dependency}
    (h : Dependency.Quiet edges) : (typeFindings v kind p name edges).Grounded := by
  refine grounded_block (fun m hm => ?_) h
  have hs : callableSymbol v m.1 m.2 ∈ (callables v p).map fun member => callableSymbol v member.1 member.2 :=
    List.mem_map_of_mem hm
  exact List.mem_map.mpr ⟨_, List.mem_append_right _ hs, rfl⟩

lemma quiet_inheritanceEdges (kind : SymbolKind) (p : Place) (name : String) :
    Dependency.Quiet (inheritanceEdges v kind p name) := by
  refine Dependency.quiet_append.mpr ⟨?_, by simp⟩
  split
  · exact Dependency.quiet_map.mpr fun _ _ => by simp
  · exact Dependency.quiet_nil

lemma grounded_typePass (words : List String) (kind : SymbolKind) : Pass.Grounded v (typePass words kind) :=
  fun _ => grounded_concat (List.forall_mem_map.mpr fun _ _ =>
    grounded_typeFindings _ _ _ (quiet_inheritanceEdges _ _ _))

lemma grounded_beforeCalls : ∀ pass ∈ beforeCalls, Pass.Grounded v pass := by
  simp only [beforeCalls, List.forall_mem_cons, List.not_mem_nil, false_imp_iff, implies_true, and_true]
  refine ⟨?_, grounded_typePass _ _, grounded_typePass _ _, grounded_typePass _ _, ?_, ?_, ?_, ?_⟩ <;>
    intro found
  · exact grounded_ofDependencies (by simp)
  · exact grounded_concat (List.forall_mem_map.mpr fun _ _ => grounded_typeFindings _ _ _ (by simp))
  · exact grounded_concat (List.forall_mem_map.mpr fun _ _ => grounded_typeFindings _ _ _ (by simp))
  · exact grounded_ofDeclarations _
  · exact grounded_ofSymbols _

end Swift

namespace ObjC

lemma grounded_blockFindings (kind : SymbolKind) (p : Place) (name : String) {edges : List Dependency}
    (h : Dependency.Quiet edges) : (blockFindings v kind p name edges).Grounded := by
  refine grounded_block (fun m hm => ?_) h
  have hs : memberSymbol v (methodKind m.1) m.1 m.2 ∈
      (methodsOf v p).map fun member => memberSymbol v (methodKind member.1) member.1 member.2 :=
    List.mem_map_of_mem hm
  exact List.mem_map.mpr ⟨_, List.mem_append_right _ hs, rfl⟩

lemma grounded_interfaceFindings (p : Place) : (interfaceFindings v p).Grounded := by
  unfold interfaceFindings
  split
  · exact grounded_empty
  · exact grounded_blockFindings _ _ _ (by simp)

lemma grounded_implementationFindings (p : Place) : (implementationFindings v p).Grounded := by
  unfold implementationFindings
  split
  · exact grounded_blockFindings _ _ _ (by simp)
  · exact grounded_blockFindings _ _ _ (by simp)
  · exact grounded_empty

lemma grounded_protocolFindings (p : Place) : (protocolFindings v p).Grounded := by
  unfold protocolFindings
  split
  · exact grounded_empty
  · exact grounded_blockFindings _ _ _ (by simp)

lemma grounded_categoryFindings (p : Place) : (categoryFindings v p).Grounded := by
  unfold categoryFindings
  split
  · exact grounded_blockFindings _ _ _ (by simp)
  · exact grounded_empty

lemma grounded_beforeCalls : ∀ pass ∈ beforeCalls, Pass.Grounded v pass := by
  simp only [beforeCalls, List.forall_mem_cons, List.not_mem_nil, false_imp_iff, implies_true, and_true]
  refine ⟨?_, ?_, ?_, ?_⟩ <;> intro found
  · exact grounded_ofDependencies (by simp)
  · unfold classes
    split
    · exact grounded_concat (List.forall_mem_map.mpr fun p _ => grounded_interfaceFindings p)
    · exact grounded_concat (List.forall_mem_map.mpr fun p _ => grounded_implementationFindings p)
  · exact grounded_concat (List.forall_mem_map.mpr fun p _ => grounded_protocolFindings p)
  · exact grounded_concat (List.forall_mem_map.mpr fun p _ => grounded_categoryFindings p)

end ObjC

namespace Cpp

lemma definedMembers_named {t : TypeBody} {s : Symbol}
    (hs : s.children = (members v t.name t.body).map (·.2)) :
    ∀ d ∈ (ofDeclared (definedMembers v t.name t.body)).declared, d.2 ∈ s.names := by
  intro d hd
  obtain ⟨m, hm, rfl⟩ := List.mem_map.mp hd
  obtain ⟨n, hn, rfl⟩ := List.mem_map.mp hm
  refine List.mem_cons_of_mem _ (List.mem_map.mpr ⟨n.2, ?_, rfl⟩)
  rw [hs]
  exact List.mem_map_of_mem (List.mem_filter.mp hn).1

lemma classSymbol_children (t : TypeBody) :
    (classSymbol v t).children = (members v t.name t.body).map (·.2) := by
  unfold classSymbol
  split <;> rfl

lemma grounded_classes : Pass.Grounded v classes := by
  refine fun _ => grounded_concat (List.forall_mem_map.mpr fun t _ => ?_)
  refine grounded_of_symbol rfl ?_ Dependency.quiet_nil
  intro d hd
  rcases List.mem_append.mp hd with hd | hd
  · exact definedMembers_named (classSymbol_children t) d hd
  · obtain rfl := List.mem_singleton.mp hd
    exact List.mem_cons_self

lemma grounded_unions : Pass.Grounded v unions := by
  refine fun _ => grounded_concat (List.forall_mem_map.mpr fun t _ => ?_)
  refine grounded_of_symbol rfl ?_ Dependency.quiet_nil
  intro d hd
  rcases List.mem_append.mp hd with hd | hd
  · exact definedMembers_named rfl d hd
  · cases hd

lemma grounded_templateFindings (template : Place) : (templateFindings v template).Grounded := by
  unfold templateFindings
  split
  · exact grounded_empty
  · refine grounded_of_symbol rfl ?_ Dependency.quiet_nil
    intro d hd
    rcases List.mem_append.mp hd with hd | hd
    · obtain ⟨e, he, rfl⟩ := List.mem_map.mp hd
      split at he
      · obtain rfl := List.mem_singleton.mp he
        exact List.mem_cons_self
      · cases he
    · cases hd

lemma grounded_beforeCalls : ∀ pass ∈ beforeCalls, Pass.Grounded v pass := by
  simp only [beforeCalls, List.forall_mem_cons, List.not_mem_nil, false_imp_iff, implies_true, and_true]
  refine ⟨?_, ?_, grounded_classes, grounded_unions, ?_, ?_, ?_, ?_, ?_, ?_⟩ <;> intro found
  · refine grounded_ofDependencies (Dependency.quiet_filterMap.mpr fun p _ d hd => ?_)
    dsimp only at hd
    split at hd
    · cases hd
    · obtain rfl := Option.some.inj hd
      simp
  · exact grounded_ofSymbols _
  · exact grounded_ofSymbols _
  · exact grounded_concat (List.forall_mem_map.mpr fun p _ => grounded_templateFindings p)
  · exact (grounded_ofDeclarations _).append (grounded_ofSymbols _)
  · exact grounded_ofDeclarations _
  · exact grounded_ofSymbols _
  · exact grounded_ofSymbols _

lemma grounded_afterCalls : ∀ pass ∈ [inheritance, overrides, templateUses], Pass.Grounded v pass := by
  simp only [List.forall_mem_cons, List.not_mem_nil, false_imp_iff, implies_true, and_true]
  refine ⟨?_, ?_, ?_⟩ <;> intro found
  · refine grounded_ofDependencies (Dependency.quiet_flatMap.mpr fun p _ => ?_)
    unfold baseEdges
    split <;> simp
  · exact grounded_ofDependencies (by simp [overrideEdges])
  · exact grounded_ofDependencies (Dependency.Quiet.distinctBy (by simp))

end Cpp

namespace Java

def InterfacesWithoutConstructors (root : Place) : Prop :=
  ∀ p ∈ root.descendants, p.kind = "interface_body" → ∀ q ∈ p.children, q.kind ≠ "constructor_declaration"

lemma mem_membersOf {kinds : List String} {body : Place} {m : Place × String} :
    m ∈ membersOf v kinds body ↔
      m.1 ∈ body.namedChildren ∧ m.1.isAny kinds = true ∧ memberName? v m.1 = some m.2 := by
  constructor
  · intro h
    obtain ⟨member, hm, hn⟩ := List.mem_filterMap.mp h
    obtain ⟨name, hname, rfl⟩ := Option.map_eq_some_iff.mp hn
    obtain ⟨hc, hk⟩ := List.mem_filter.mp hm
    exact ⟨hc, hk, hname⟩
  · rintro ⟨hc, hk, hn⟩
    exact List.mem_filterMap.mpr ⟨m.1, List.mem_filter.mpr ⟨hc, hk⟩, by rw [hn]; rfl⟩

lemma bodyDeclared_cases {body : Place} {m : Place × String} (h : m ∈ bodyDeclared v body) :
    m.2 ∈ (methods v body).map (·.name) ∨
      (m.1 ∈ body.children ∧ m.1.kind = "constructor_declaration" ∧
        m.2 ∈ (constructors v body).map (·.name)) := by
  obtain ⟨hc, hk, hn⟩ := mem_membersOf.mp h
  have hkind : m.1.kind = "method_declaration" ∨ m.1.kind = "constructor_declaration" := by
    simpa [Place.isAny, callers, Place.kind] using hk
  rcases hkind with hm | hm
  · have hmem : m ∈ membersOf v ["method_declaration"] body :=
      mem_membersOf.mpr ⟨hc, by simpa [Place.isAny, Place.kind] using hm, hn⟩
    exact Or.inl (List.mem_map.mpr ⟨_, List.mem_map_of_mem hmem, rfl⟩)
  · have hmem : m ∈ membersOf v ["constructor_declaration"] body :=
      mem_membersOf.mpr ⟨hc, by simpa [Place.isAny, Place.kind] using hm, hn⟩
    exact Or.inr ⟨(List.mem_filter.mp hc).1, hm, List.mem_map.mpr ⟨_, List.mem_map_of_mem hmem, rfl⟩⟩

lemma bodyDeclared_named (body : Place) :
    ∀ m ∈ bodyDeclared v body, m.2 ∈ (bodySymbols v body).map (·.name) := by
  intro m hm
  simp only [bodySymbols, List.map_append, List.mem_append]
  rcases bodyDeclared_cases hm with h | ⟨_, _, h⟩
  · exact Or.inl (Or.inr h)
  · exact Or.inr h

lemma flatMap_named {places : List Place} {declared : Place → List (Place × String)}
    {symbols : Place → List Symbol} (h : ∀ p ∈ places, ∀ m ∈ declared p, m.2 ∈ (symbols p).map (·.name)) :
    ∀ m ∈ places.flatMap declared, m.2 ∈ (places.flatMap symbols).map (·.name) := by
  intro m hm
  obtain ⟨p, hp, hm⟩ := List.mem_flatMap.mp hm
  obtain ⟨s, hs, hn⟩ := List.mem_map.mp (h p hp m hm)
  exact List.mem_map.mpr ⟨s, List.mem_flatMap.mpr ⟨p, hp, hs⟩, hn⟩

lemma grounded_interfaceFindings {package : String} {d : Definition}
    (hr : InterfacesWithoutConstructors v.root) (hd : d.node ∈ v.root.descendants) :
    (interfaceFindings v package d).Grounded := by
  refine grounded_block (flatMap_named fun body hb m hm => ?_) (by simp)
  have hfind := Option.mem_toList.mp hb
  have hbody := Place.mem_descendants_of_mem_children hd (List.mem_of_find?_eq_some hfind)
  have hkind : body.kind = "interface_body" := by simpa using List.find?_some hfind
  rcases bodyDeclared_cases hm with h | ⟨hc, hk, _⟩
  · exact h
  · exact absurd hk (hr body hbody hkind m.1 hc)

lemma grounded_beforeCalls (hr : InterfacesWithoutConstructors v.root) :
    ∀ pass ∈ beforeCalls, Pass.Grounded v pass := by
  simp only [beforeCalls, List.forall_mem_cons, List.not_mem_nil, false_imp_iff, implies_true, and_true]
  refine ⟨?_, ?_, ?_, ?_, ?_, ?_, ?_⟩ <;> intro found
  · unfold packages
    split <;> exact grounded_ofSymbols _
  · exact grounded_ofDependencies (by simp)
  · refine grounded_concat (List.forall_mem_map.mpr fun d _ => grounded_block ?_ ?_)
    · exact flatMap_named fun body _ => bodyDeclared_named body
    · exact Dependency.quiet_append.mpr ⟨Dependency.quiet_map.mpr fun _ _ => by simp, by simp [implementedEdges]⟩
  · exact grounded_concat (List.forall_mem_map.mpr fun d hd =>
      grounded_interfaceFindings hr (Definition.node_mem_descendants hd))
  · refine grounded_concat (List.forall_mem_map.mpr fun d _ =>
      grounded_block (flatMap_named fun entry _ m hm => ?_) (by simp [implementedEdges]))
    unfold enumDeclared at hm
    split at hm
    · rename_i hk
      have hc : (entry.kind == "enum_constant") = false := by
        rw [beq_iff_eq.mp hk]
        rfl
      rw [enumSymbols, hc, if_neg (by simp), if_pos hk]
      exact bodyDeclared_named entry m hm
    · cases hm
  · refine grounded_concat (List.forall_mem_map.mpr fun d _ => grounded_block ?_ (by simp [implementedEdges]))
    intro m hm
    have h := flatMap_named (fun body _ => bodyDeclared_named body) m hm
    simp only [typeSymbol, View.symbol, List.map_append]
    exact List.mem_append_right _ h
  · exact grounded_of_no_declared rfl (Dependency.Quiet.distinctBy (by simp))

end Java

end SourceAtlas
