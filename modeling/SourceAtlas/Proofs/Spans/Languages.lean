import SourceAtlas.Extract.Cpp
import SourceAtlas.Extract.Go
import SourceAtlas.Extract.Java
import SourceAtlas.Extract.JavaScript
import SourceAtlas.Extract.Kotlin
import SourceAtlas.Extract.ObjC
import SourceAtlas.Extract.Python
import SourceAtlas.Extract.Swift
import SourceAtlas.Proofs.Merge.Distinct
import SourceAtlas.Proofs.Spans.Located

/-! In every language the passes only find symbols that span nodes, with members below them; the one exception is a
package that the path of the file implies. -/

namespace SourceAtlas

open Findings Place

variable {v : View} {p : Place}

namespace Go

lemma holds_of_mem_typeDefinitions {d : TypeDefinition} (h : d ∈ typeDefinitions v) :
    v.root.Holds d.node ∧ d.node.Holds d.body := by
  obtain ⟨m, hm, hd⟩ := List.mem_filterMap.mp h
  obtain ⟨p, hp, hr⟩ := View.exists_run_of_mem_findAll hm
  have hplace : m.place? "definition" = some p := by
    rw [typePattern] at hr
    exact Pattern.place?_of_mem_run_captured hr
  unfold TypeDefinition.ofMatch? at hd
  split at hd
  · rename_i name body node _ hbody hnode
    obtain rfl := Option.some.inj hd
    obtain rfl := Option.some.inj (hplace.symm.trans hnode)
    exact ⟨holds_of_mem_descendants hp, (Pattern.within_run _ p m hr).place? hbody⟩
  · cases hd

lemma isMember_fieldSymbols {body : Place} :
    ∀ c ∈ (fieldDeclarations body).flatMap (fieldSymbols v), c.IsMember v body := by
  refine List.forall_mem_flatMap.mpr fun declaration hd => List.forall_mem_map.mpr fun name _ => ?_
  apply View.isMember_symbol
  unfold fieldDeclarations at hd
  split at hd
  · cases hd
  · rename_i list hl
    exact (holds_of_find? hl).trans (holds_of_mem_namedChildren (List.mem_filter.mp hd).1)

lemma isMember_interfaceMethods {body : Place} : ∀ c ∈ interfaceMethods v body, c.IsMember v body :=
  forall_mem_filterMap_map fun _ hm _ =>
    View.isMember_symbol (holds_of_mem_namedChildren (List.mem_filter.mp hm).1)

lemma emits_passes (moduleName : Option String) : ∀ pass ∈ passes moduleName, Pass.Emits v.Locates v pass := by
  simp only [passes, beforeCalls, List.cons_append, List.nil_append, List.forall_mem_cons, List.not_mem_nil,
    false_imp_iff, implies_true, and_true]
  refine ⟨?_, ?_, ?_, ?_, ?_, ?_, ?_, ?_⟩ <;> intro found
  · refine List.forall_mem_map.mpr fun name hn => View.locates_leaf ?_
    obtain ⟨clause, hc, hn⟩ := Option.bind_eq_some_iff.mp (Option.mem_toList.mp hn)
    exact (holds_of_find? hc).trans (holds_of_find? hn)
  · exact emits_nothing rfl
  · exact emits_ofDeclarations (List.forall_mem_map.mpr fun d hd =>
      View.locates_leaf (View.holds_of_mem_definitions hd))
  · exact emits_ofDeclarations (List.forall_mem_map.mpr fun d hd =>
      View.locates_leaf (View.holds_of_mem_definitions hd))
  · refine List.forall_mem_map.mpr fun d hd => ?_
    obtain ⟨hn, hb⟩ := holds_of_mem_typeDefinitions (List.mem_filter.mp hd).1
    exact View.locates_symbol hn fun c hc => (isMember_fieldSymbols c hc).mono hb
  · refine List.forall_mem_map.mpr fun d hd => ?_
    obtain ⟨hn, hb⟩ := holds_of_mem_typeDefinitions (List.mem_filter.mp hd).1
    exact View.locates_symbol hn fun c hc => (isMember_interfaceMethods c hc).mono hb
  · exact List.forall_mem_map.mpr fun d hd =>
      View.locates_leaf (holds_of_mem_typeDefinitions (List.mem_filter.mp hd).1).1
  · exact emits_nothing rfl

end Go

namespace JavaScript

lemma holds_of_mem_members {kinds : List String} {m : Place × String} (h : m ∈ members v kinds p) :
    p.Holds m.1 := by
  unfold members at h
  split at h
  · cases h
  · rename_i body hb
    refine holds_of_mem_filterMap (fun q hq => ?_) h
    exact (holds_of_find? hb).trans (holds_of_mem_namedChildren (List.mem_filter.mp hq).1)

lemma emits_classFindings {d : Definition} (hd : v.root.Holds d.node) :
    (classFindings v d).Emits v.Locates := by
  refine List.forall_mem_singleton.mpr (View.locates_symbol hd ?_)
  refine List.forall_mem_append.mpr ⟨?_, ?_⟩
  · exact List.forall_mem_map.mpr fun m hm => View.isMember_symbol (holds_of_mem_members hm)
  · exact List.forall_mem_map.mpr fun m hm => View.isMember_symbol (holds_of_mem_members hm)

lemma isMember_interfaceMember? {member : Place} {s : Symbol} (hm : p.Holds member)
    (h : interfaceMember? v member = some s) : s.IsMember v p := by
  unfold interfaceMember? at h
  dsimp only at h
  split at h
  · obtain ⟨name, _, rfl⟩ := Option.map_eq_some_iff.mp h
    exact View.isMember_symbol hm
  · split at h
    · obtain ⟨name, _, rfl⟩ := Option.map_eq_some_iff.mp h
      exact View.isMember_symbol hm
    · cases h

lemma emits_interfaceFindings {d : Definition} (hd : v.root.Holds d.node) :
    (interfaceFindings v d).Emits v.Locates := by
  refine List.forall_mem_singleton.mpr (View.locates_symbol hd fun c hc => ?_)
  obtain ⟨member, hm, hs⟩ := List.mem_filterMap.mp hc
  refine isMember_interfaceMember? ?_ hs
  cases hb : d.node.childByField? "body" with
  | none =>
    rw [hb] at hm
    cases hm
  | some body =>
    rw [hb] at hm
    exact (holds_of_find? hb).trans (holds_of_mem_namedChildren hm)

lemma emits_passes : ∀ pass ∈ passes, Pass.Emits v.Locates v pass := by
  simp only [passes, beforeCalls, List.cons_append, List.nil_append, List.forall_mem_cons, List.not_mem_nil,
    false_imp_iff, implies_true, and_true]
  refine ⟨?_, ?_, ?_, ?_, ?_, ?_, ?_, ?_⟩ <;> intro found
  · exact emits_nothing rfl
  · exact List.forall_mem_map.mpr fun p hp => View.locates_leaf (View.holds_of_mem_placesOf hp)
  · refine emits_ofDeclarations (List.forall_mem_append.mpr ⟨?_, ?_⟩)
    · exact List.forall_mem_map.mpr fun d hd => View.locates_leaf (View.holds_of_mem_definitions hd)
    · exact List.forall_mem_map.mpr fun d hd => View.locates_leaf (View.holds_of_mem_definitions hd)
  · exact emits_ofDeclarations (List.forall_mem_map.mpr fun d hd =>
      View.locates_leaf (View.holds_of_mem_definitions hd))
  · exact emits_concat (List.forall_mem_map.mpr fun d hd =>
      emits_classFindings (View.holds_of_mem_definitions hd))
  · unfold interfaces
    split
    · exact emits_concat (List.forall_mem_map.mpr fun d hd =>
        emits_interfaceFindings (View.holds_of_mem_definitions hd))
    · exact emits_nothing rfl
  · unfold typeAliases
    split
    · exact List.forall_mem_map.mpr fun d hd => View.locates_leaf (View.holds_of_mem_definitions hd)
    · exact emits_nothing rfl
  · exact emits_nothing rfl

end JavaScript

namespace Python

lemma holds_of_methodOf? {statement method : Place} (h : methodOf? statement = some method) :
    statement.Holds method := by
  unfold methodOf? at h
  split at h
  · obtain rfl := Option.some.inj h
    exact .refl _
  · split at h
    · exact holds_of_find? (Option.filter_eq_some_iff.mp h).1
    · cases h

lemma holds_of_mem_methodDefinitions {d : Definition} (h : d ∈ methodDefinitions p) : p.Holds d.node := by
  unfold methodDefinitions at h
  split at h
  · cases h
  · rename_i block hb
    obtain ⟨method, hm, hn⟩ := List.mem_filterMap.mp h
    obtain ⟨name, _, rfl⟩ := Option.map_eq_some_iff.mp hn
    obtain ⟨statement, hs, hm⟩ := List.mem_filterMap.mp hm
    exact (holds_of_find? hb).trans ((holds_of_mem_namedChildren hs).trans (holds_of_methodOf? hm))

lemma holds_of_leadingString? {string : Place} (h : leadingString? p = some string) : p.Holds string := by
  unfold leadingString? at h
  split at h
  · cases h
  · rename_i first rest hf
    split at h
    · have hmem : first ∈ p.children.dropWhile (·.kind == "comment") := hf ▸ List.mem_cons_self
      have hc := (List.dropWhile_sublist _).subset hmem
      exact (holds_of_mem_children hc).trans (holds_of_find? h)
    · cases h

lemma emits_passes : ∀ pass ∈ passes, Pass.Emits v.Locates v pass := by
  simp only [passes, beforeCalls, List.cons_append, List.nil_append, List.forall_mem_cons, List.not_mem_nil,
    false_imp_iff, implies_true, and_true]
  refine ⟨?_, ?_, ?_, ?_, ?_⟩ <;> intro found
  · exact List.forall_mem_map.mpr fun string hs =>
      View.locates_leaf (holds_of_leadingString? (Option.mem_toList.mp hs))
  · exact emits_nothing rfl
  · exact emits_ofDeclarations (List.forall_mem_map.mpr fun d hd =>
      View.locates_leaf (View.holds_of_mem_definitions (List.mem_filter.mp hd).1))
  · refine emits_concat (List.forall_mem_map.mpr fun d hd => List.forall_mem_singleton.mpr ?_)
    refine View.locates_symbol (View.holds_of_mem_definitions (List.mem_filter.mp hd).1) ?_
    exact List.forall_mem_map.mpr fun m hm => View.isMember_symbol (holds_of_mem_methodDefinitions hm)
  · exact emits_nothing rfl

end Python

namespace Kotlin

lemma holds_of_mem_bodyMembers {member : Place} (h : member ∈ bodyMembers p) : p.Holds member := by
  unfold bodyMembers at h
  split at h
  · cases h
  · rename_i body hb
    obtain ⟨child, hc, hm⟩ := List.mem_flatMap.mp h
    have hchild := (holds_of_find? hb).trans (holds_of_mem_namedChildren hc)
    unfold unwrapMembers at hm
    split at hm
    · exact hchild.trans (holds_of_mem_namedChildren hm)
    · obtain rfl := List.mem_singleton.mp hm
      exact hchild

lemma holds_of_mem_methodsOf {m : Place × String} (h : m ∈ methodsOf v p) : p.Holds m.1 :=
  holds_of_mem_filterMap (fun _ hq => holds_of_mem_bodyMembers (List.mem_filter.mp hq).1) h

lemma isMember_typeMembers : ∀ c ∈ typeMembers v p, c.IsMember v p := by
  refine List.forall_mem_append.mpr ⟨List.forall_mem_append.mpr ⟨?_, ?_⟩, ?_⟩
  · exact forall_mem_filterMap_map fun member hm _ =>
      View.isMember_symbol (holds_of_mem_bodyMembers (List.mem_filter.mp hm).1)
  · exact List.forall_mem_map.mpr fun m hm => View.isMember_symbol (holds_of_mem_methodsOf hm)
  · exact forall_mem_filterMap_map fun member hm _ =>
      View.isMember_symbol (holds_of_mem_bodyMembers (List.mem_filter.mp hm).1)

lemma holds_of_mem_declarations {kinds : List String} {d : Place × String} (h : d ∈ declarations v kinds) :
    v.root.Holds d.1 :=
  holds_of_mem_filterMap (fun _ hq => holds_of_mem_namedDescendants hq) h

lemma emits_typeFindings {package : String} {kind : SymbolKind} {members : List Symbol} {name : String}
    (hp : v.root.Holds p) (hm : ∀ c ∈ members, c.IsMember v p) :
    (typeFindings v package kind members p name).Emits v.Locates :=
  List.forall_mem_singleton.mpr (View.locates_symbol hp hm)

lemma emits_packages : Pass.Emits (fun s => v.Locates s ∨ s ∈ Package.inferred sourceRoots v.path) v packages := by
  intro found s hs
  simp only [packages, ofSymbols] at hs
  split at hs
  · exact Or.inr hs
  · left
    unfold declaredPackage at hs
    split at hs
    · cases hs
    · rename_i header hh
      dsimp only at hs
      split at hs
      · cases hs
      · obtain rfl := List.mem_singleton.mp hs
        exact View.locates_leaf (holds_of_find? hh)

lemma emits_afterPackages : ∀ pass ∈ passes.tail, Pass.Emits v.Locates v pass := by
  simp only [passes, beforeCalls, List.cons_append, List.nil_append, List.tail_cons, List.forall_mem_cons,
    List.not_mem_nil, false_imp_iff, implies_true, and_true]
  refine ⟨?_, ?_, ?_, ?_, ?_, ?_, ?_⟩ <;> intro found
  · exact emits_nothing rfl
  · exact emits_concat (List.forall_mem_map.mpr fun d hd =>
      emits_typeFindings (holds_of_mem_declarations (List.mem_filter.mp hd).1) isMember_typeMembers)
  · refine emits_concat (List.forall_mem_map.mpr fun d hd =>
      emits_typeFindings (holds_of_mem_declarations (List.mem_filter.mp hd).1) ?_)
    exact List.forall_mem_map.mpr fun m hm => View.isMember_symbol (holds_of_mem_methodsOf hm)
  · exact emits_ofDeclarations (List.forall_mem_map.mpr fun d hd =>
      View.locates_leaf (holds_of_mem_declarations (List.mem_filter.mp hd).1))
  · exact forall_mem_filterMap_map fun property hp _ =>
      View.locates_leaf (holds_of_mem_namedDescendants (List.mem_filter.mp hp).1)
  · intro s hs
    obtain ⟨⟨usage, name⟩, hu, rfl⟩ := List.mem_map.mp (mem_of_mem_distinctBy hs)
    obtain ⟨q, hq, hn⟩ := List.mem_filterMap.mp hu
    dsimp only at hn
    split at hn
    · cases hn
    · obtain ⟨rfl, -⟩ := Prod.mk.inj (Option.some.inj hn)
      exact View.locates_leaf (holds_of_mem_namedDescendants hq)
  · exact emits_nothing rfl

end Kotlin

namespace Java

lemma holds_of_mem_membersOf {kinds : List String} {m : Place × String} (h : m ∈ membersOf v kinds p) :
    p.Holds m.1 :=
  holds_of_mem_filterMap (fun _ hq => holds_of_mem_namedChildren (List.mem_filter.mp hq).1) h

lemma isMember_methods : ∀ c ∈ methods v p, c.IsMember v p :=
  List.forall_mem_map.mpr fun _ hm => View.isMember_symbol (holds_of_mem_membersOf hm)

lemma isMember_bodySymbols : ∀ c ∈ bodySymbols v p, c.IsMember v p := by
  refine List.forall_mem_append.mpr ⟨List.forall_mem_append.mpr ⟨?_, isMember_methods⟩, ?_⟩
  · refine List.forall_mem_flatMap.mpr fun declaration hd => List.forall_mem_map.mpr fun m _ => ?_
    exact View.isMember_symbol (holds_of_mem_namedChildren (List.mem_filter.mp hd).1)
  · exact List.forall_mem_map.mpr fun m hm => View.isMember_symbol (holds_of_mem_membersOf hm)

lemma isMember_enumSymbols : ∀ c ∈ enumSymbols v p, c.IsMember v p := by
  unfold enumSymbols
  split
  · exact List.forall_mem_map.mpr fun name _ => View.isMember_symbol (.refl p)
  · split
    · exact isMember_bodySymbols
    · exact fun c hc => absurd hc List.not_mem_nil

lemma isMember_flatMap {places : List Place} {symbols : Place → List Symbol} (hp : ∀ q ∈ places, p.Holds q)
    (hs : ∀ q, ∀ c ∈ symbols q, c.IsMember v q) : ∀ c ∈ places.flatMap symbols, c.IsMember v p :=
  List.forall_mem_flatMap.mpr fun q hq c hc => (hs q c hc).mono (hp q hq)

lemma holds_of_mem_bodies {kind : String} : ∀ body ∈ bodies p kind, p.Holds body :=
  fun _ hb => holds_of_find? (Option.mem_toList.mp hb)

lemma isMember_components : ∀ c ∈ components v p, c.IsMember v p := by
  refine List.forall_mem_map.mpr fun m hm => View.isMember_symbol ?_
  obtain ⟨parameters, hp, hm⟩ := List.mem_flatMap.mp hm
  exact (holds_of_find? (Option.mem_toList.mp hp)).trans (holds_of_mem_membersOf hm)

lemma emits_typeFindings {package : String} {kind : SymbolKind} {d : Definition} {children : List Symbol}
    {declared : List (Place × String)} {edges : List Dependency} (hd : v.root.Holds d.node)
    (hc : ∀ c ∈ children, c.IsMember v d.node) :
    (typeFindings (typeSymbol v package kind d children) declared edges).Emits v.Locates :=
  List.forall_mem_singleton.mpr (View.locates_symbol hd hc)

lemma emits_packages : Pass.Emits (fun s => v.Locates s ∨ s ∈ Package.inferred sourceRoots v.path) v packages := by
  intro found s hs
  unfold packages at hs
  split at hs
  · rename_i name hn
    left
    obtain rfl := List.mem_singleton.mp hs
    obtain ⟨m, hm, hp⟩ := Option.bind_eq_some_iff.mp hn
    exact View.locates_leaf ((View.within_of_mem_findAll (List.mem_of_head? hm)).place? hp)
  · exact Or.inr hs

lemma emits_afterPackages : ∀ pass ∈ passes.tail, Pass.Emits v.Locates v pass := by
  simp only [passes, beforeCalls, List.cons_append, List.nil_append, List.tail_cons, List.forall_mem_cons,
    List.not_mem_nil, false_imp_iff, implies_true, and_true]
  refine ⟨?_, ?_, ?_, ?_, ?_, ?_, ?_⟩ <;> intro found
  · exact emits_nothing rfl
  · exact emits_concat (List.forall_mem_map.mpr fun d hd =>
      emits_typeFindings (View.holds_of_mem_definitions hd)
        (isMember_flatMap holds_of_mem_bodies fun _ => isMember_bodySymbols))
  · exact emits_concat (List.forall_mem_map.mpr fun d hd =>
      emits_typeFindings (View.holds_of_mem_definitions hd)
        (isMember_flatMap holds_of_mem_bodies fun _ => isMember_methods))
  · refine emits_concat (List.forall_mem_map.mpr fun d hd =>
      emits_typeFindings (View.holds_of_mem_definitions hd)
        (isMember_flatMap (fun entry he => ?_) fun _ => isMember_enumSymbols))
    obtain ⟨body, hb, he⟩ := List.mem_flatMap.mp he
    exact (holds_of_mem_bodies body hb).trans (holds_of_mem_namedChildren he)
  · exact emits_concat (List.forall_mem_map.mpr fun d hd =>
      emits_typeFindings (View.holds_of_mem_definitions hd) (List.forall_mem_append.mpr
        ⟨isMember_components, isMember_flatMap holds_of_mem_bodies fun _ => isMember_bodySymbols⟩))
  · exact List.forall_mem_map.mpr fun d hd => View.locates_leaf (View.holds_of_mem_definitions hd)
  · exact emits_nothing rfl

end Java

namespace Swift

lemma holds_of_mem_bodyMembers {member : Place} (h : member ∈ bodyMembers p) : p.Holds member := by
  unfold bodyMembers at h
  split at h
  · cases h
  · rename_i body hb
    have hbody : p.Holds body := by
      rcases Option.or_eq_some_iff.mp hb with hb | ⟨-, hb⟩
      · exact holds_of_find? hb
      · exact holds_of_find? hb
    exact hbody.trans (holds_of_mem_namedChildren h)

lemma isMember_members : ∀ c ∈ members v p, c.IsMember v p := by
  refine List.forall_mem_append.mpr ⟨List.forall_mem_append.mpr ⟨?_, ?_⟩, ?_⟩
  · refine List.forall_mem_flatMap.mpr fun entry he => List.forall_mem_map.mpr fun name _ => ?_
    exact View.isMember_symbol (holds_of_mem_bodyMembers (List.mem_filter.mp he).1)
  · exact forall_mem_filterMap_map fun member hm _ =>
      View.isMember_symbol (holds_of_mem_bodyMembers (List.mem_filter.mp hm).1)
  · refine List.forall_mem_map.mpr fun m hm => View.isMember_symbol ?_
    exact holds_of_mem_filterMap (fun _ hq => holds_of_mem_bodyMembers hq) hm

lemma emits_typeFindings {kind : SymbolKind} {name : String} {edges : List Dependency} (hp : v.root.Holds p) :
    (typeFindings v kind p name edges).Emits v.Locates :=
  List.forall_mem_singleton.mpr (View.locates_symbol hp isMember_members)

lemma holds_of_mem_declarations {kind : String} {d : Place × String} (h : d ∈ declarations v kind) :
    v.root.Holds d.1 :=
  holds_of_mem_filterMap (fun _ hq => holds_of_mem_namedDescendants hq) h

lemma emits_typePass (words : List String) (kind : SymbolKind) : Pass.Emits v.Locates v (typePass words kind) :=
  fun _ => emits_concat (List.forall_mem_map.mpr fun _ hd =>
    emits_typeFindings (holds_of_mem_declarations (List.mem_filter.mp hd).1))

lemma emits_passes : ∀ pass ∈ passes, Pass.Emits v.Locates v pass := by
  simp only [passes, beforeCalls, List.cons_append, List.nil_append, List.forall_mem_cons, List.not_mem_nil,
    false_imp_iff, implies_true, and_true]
  refine ⟨?_, emits_typePass _ _, emits_typePass _ _, emits_typePass _ _, ?_, ?_, ?_, ?_, ?_⟩ <;> intro found
  · exact emits_nothing rfl
  · exact emits_concat (List.forall_mem_map.mpr fun d hd => emits_typeFindings (holds_of_mem_declarations hd))
  · exact emits_concat (List.forall_mem_map.mpr fun d hd =>
      emits_typeFindings (holds_of_mem_declarations (List.mem_filter.mp hd).1))
  · exact emits_ofDeclarations (forall_mem_filterMap_map fun function hf _ =>
      View.locates_leaf (holds_of_mem_namedDescendants (List.mem_filter.mp hf).1))
  · exact forall_mem_filterMap_map fun property hp _ =>
      View.locates_leaf (holds_of_mem_namedDescendants (List.mem_filter.mp hp).1)
  · exact emits_nothing rfl

end Swift

namespace ObjC

lemma holds_of_mem_memberNodes {member : Place} (h : member ∈ memberNodes p) : p.Holds member := by
  obtain ⟨child, hc, hm⟩ := List.mem_flatMap.mp h
  have hchild := holds_of_mem_namedChildren hc
  split at hm
  · exact hchild.trans (holds_of_mem_namedChildren hm)
  · obtain rfl := List.mem_singleton.mp hm
    exact hchild

lemma isMember_members : ∀ c ∈ members v p, c.IsMember v p := by
  refine List.forall_mem_append.mpr ⟨?_, ?_⟩
  · exact forall_mem_filterMap_map fun member hm _ =>
      View.isMember_symbol (holds_of_mem_memberNodes (List.mem_filter.mp hm).1)
  · refine List.forall_mem_map.mpr fun m hm => View.isMember_symbol ?_
    exact holds_of_mem_filterMap (fun _ hq => holds_of_mem_memberNodes (List.mem_filter.mp hq).1) hm

lemma emits_blockFindings {kind : SymbolKind} {name : String} {edges : List Dependency} (hp : v.root.Holds p) :
    (blockFindings v kind p name edges).Emits v.Locates :=
  List.forall_mem_singleton.mpr (View.locates_symbol hp isMember_members)

lemma emits_interfaceFindings (hp : v.root.Holds p) : (interfaceFindings v p).Emits v.Locates := by
  unfold interfaceFindings
  split
  · exact emits_nothing rfl
  · exact emits_blockFindings hp

lemma emits_implementationFindings (hp : v.root.Holds p) : (implementationFindings v p).Emits v.Locates := by
  unfold implementationFindings
  split
  · exact emits_blockFindings hp
  · exact emits_blockFindings hp
  · exact emits_nothing rfl

lemma emits_protocolFindings (hp : v.root.Holds p) : (protocolFindings v p).Emits v.Locates := by
  unfold protocolFindings
  split
  · exact emits_nothing rfl
  · exact emits_blockFindings hp

lemma emits_categoryFindings (hp : v.root.Holds p) : (categoryFindings v p).Emits v.Locates := by
  unfold categoryFindings
  split
  · exact emits_blockFindings hp
  · exact emits_nothing rfl

lemma emits_passes : ∀ pass ∈ passes, Pass.Emits v.Locates v pass := by
  simp only [passes, beforeCalls, List.cons_append, List.nil_append, List.forall_mem_cons, List.not_mem_nil,
    false_imp_iff, implies_true, and_true]
  refine ⟨?_, ?_, ?_, ?_, ?_⟩ <;> intro found
  · exact emits_nothing rfl
  · unfold classes
    split
    · exact emits_concat (List.forall_mem_map.mpr fun p hp =>
        emits_interfaceFindings (holds_of_mem_namedDescendants (List.mem_filter.mp hp).1))
    · exact emits_concat (List.forall_mem_map.mpr fun p hp =>
        emits_implementationFindings (holds_of_mem_namedDescendants hp))
  · exact emits_concat (List.forall_mem_map.mpr fun p hp =>
      emits_protocolFindings (holds_of_mem_namedDescendants hp))
  · exact emits_concat (List.forall_mem_map.mpr fun p hp =>
      emits_categoryFindings (holds_of_mem_namedDescendants (List.mem_filter.mp hp).1))
  · exact emits_nothing rfl

end ObjC

namespace Cpp

lemma holds_of_mem_typeBodies {kinds : List String} {t : TypeBody} (h : t ∈ typeBodies v kinds) :
    v.root.Holds t.node ∧ t.node.Holds t.body := by
  obtain ⟨node, hn, ht⟩ := List.mem_filterMap.mp h
  split at ht
  · rename_i name body _ hb
    obtain rfl := Option.some.inj ht
    exact ⟨holds_of_mem_namedDescendants hn, holds_of_find? hb⟩
  · cases ht

lemma isMember_memberSymbols {className : String} {item : Place} (hi : p.Holds item) :
    ∀ m ∈ memberSymbols v className item, m.2.IsMember v p := by
  unfold memberSymbols
  dsimp only
  split
  · exact List.forall_mem_map.mpr fun name _ => View.isMember_symbol hi
  · split
    · split
      · exact List.forall_mem_singleton.mpr (View.isMember_symbol hi)
      · exact List.forall_mem_map.mpr fun name _ => View.isMember_symbol hi
    · exact fun m hm => absurd hm List.not_mem_nil

lemma locates_memberedSymbol {kinds : List String} {t : TypeBody} (h : t ∈ typeBodies v kinds)
    (kind : SymbolKind) (keyword : String) : v.Locates (memberedSymbol v kind keyword t) := by
  obtain ⟨hn, hb⟩ := holds_of_mem_typeBodies h
  refine View.locates_symbol hn (List.forall_mem_map.mpr ?_)
  exact List.forall_mem_flatMap.mpr fun item hi =>
    isMember_memberSymbols (hb.trans (holds_of_mem_namedChildren hi))

lemma isMember_enumConstants : ∀ c ∈ enumConstants v p, c.IsMember v p :=
  forall_mem_filterMap_map fun _ hm _ => View.isMember_symbol (holds_of_mem_namedDescendants hm)

lemma holds_of_mem_named {kinds : List String} {d : Place × String} (h : d ∈ named v kinds) :
    v.root.Holds d.1 :=
  holds_of_mem_filterMap (fun _ hq => holds_of_mem_namedDescendants hq) h

lemma holds_of_mem_functionNodes {kind : String} {d : Place × Place} (h : d ∈ functionNodes v kind) :
    v.root.Holds d.1 :=
  holds_of_mem_filterMap (fun _ hq => holds_of_mem_namedDescendants hq) h

lemma emits_templateFindings (hp : v.root.Holds p) : (templateFindings v p).Emits v.Locates := by
  unfold templateFindings
  split
  · exact emits_nothing rfl
  · exact List.forall_mem_singleton.mpr (View.locates_leaf hp)

lemma emits_passes : ∀ pass ∈ passes, Pass.Emits v.Locates v pass := by
  simp only [passes, beforeCalls, List.cons_append, List.nil_append, List.forall_mem_cons, List.not_mem_nil,
    false_imp_iff, implies_true, and_true]
  refine ⟨?_, ?_, ?_, ?_, ?_, ?_, ?_, ?_, ?_, ?_, ?_, ?_, ?_, ?_⟩ <;> intro found
  · exact emits_nothing rfl
  · exact List.forall_mem_map.mpr fun d hd => View.locates_leaf (holds_of_mem_named hd)
  · refine emits_concat (List.forall_mem_map.mpr fun t ht => List.forall_mem_singleton.mpr ?_)
    unfold classSymbol
    split <;> exact locates_memberedSymbol ht _ _
  · exact emits_concat (List.forall_mem_map.mpr fun t ht =>
      List.forall_mem_singleton.mpr (locates_memberedSymbol ht _ _))
  · refine List.forall_mem_map.mpr fun t ht => ?_
    obtain ⟨hn, hb⟩ := holds_of_mem_typeBodies ht
    exact View.locates_symbol hn fun c hc => (isMember_enumConstants c hc).mono hb
  · exact emits_concat (List.forall_mem_map.mpr fun p hp =>
      emits_templateFindings (holds_of_mem_namedDescendants hp))
  · refine Emits.append (emits_ofDeclarations (List.forall_mem_map.mpr fun d hd => ?_)) ?_
    · exact View.locates_leaf (holds_of_mem_functionNodes (List.mem_filter.mp hd).1)
    · refine List.forall_mem_map.mpr (List.forall_mem_map.mpr fun d hd => ?_)
      exact View.locates_leaf (holds_of_mem_functionNodes (List.mem_filter.mp hd).1)
  · exact emits_ofDeclarations (List.forall_mem_map.mpr fun d hd =>
      View.locates_leaf (holds_of_mem_functionNodes (List.mem_filter.mp hd).1))
  · refine List.forall_mem_append.mpr ⟨List.forall_mem_flatMap.mpr fun p hp => ?_, ?_⟩
    · exact List.forall_mem_map.mpr fun name _ => View.locates_leaf (holds_of_mem_namedDescendants hp)
    · exact List.forall_mem_map.mpr fun d hd =>
        View.locates_leaf (holds_of_mem_named (List.mem_filter.mp hd).1)
  · exact List.forall_mem_map.mpr fun d hd => View.locates_leaf (holds_of_mem_named hd)
  all_goals exact emits_nothing rfl

end Cpp

end SourceAtlas
