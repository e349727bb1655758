import SourceAtlas.Proofs.Edges.Kinds
import SourceAtlas.Proofs.List.Search
import SourceAtlas.Proofs.Symbols.TypeDeclarations
import SourceAtlas.Proofs.Tree.Captures
import SourceAtlas.Proofs.Tree.Order

namespace SourceAtlas

open Findings

variable {v : View} {p : Place} {name : String}

lemma bind_find?_ancestors {kinds : List String} {name? : Place → Option String} :
    (p.ancestors.find? (·.isAny kinds)).bind name? = some name ↔
      ∃ d, FirstWith (·.isAny kinds = true) p.ancestors d ∧ name? d = some name := by
  simp only [Option.bind_eq_some_iff, firstWith_iff_find? fun _ => Iff.rfl]

namespace Java

def IsUsage (root p : Place) : Prop :=
  ∃ annotation, root.Holds annotation ∧ annotation.node.named = true ∧
    annotation.kind ∈ ["marker_annotation", "annotation"] ∧
    p ∈ annotation.namedChildren ∧ p.kind = "identifier" ∧ p.node.field = some "name"

lemma mem_usages : p ∈ v.placesOf "usage" usagePattern ↔ IsUsage v.root p := by
  rw [View.mem_placesOf, IsUsage]
  apply exists_congr
  intro annotation
  simp only [usagePattern, Pattern.captures_either, List.mem_cons, List.not_mem_nil, or_false, exists_eq_or_imp,
    exists_eq_left, Pattern.captures_child]
  tauto

lemma connects_annotations (v : View) :
    (Pass.runAll passes v).Connects .annotatedWith fun declared name =>
      ∃ p d, IsUsage v.root p ∧ v.text p = name ∧ FirstWith (·.isAny annotatedKinds = true) p.ancestors d ∧
        declaredName? v d = some declared := by
  have hends : (Pass.runAll passes v).ends .annotatedWith = _ :=
    Pass.ends_runAll (findEdges v) 6 rfl (by simp [edgeKinds])
  refine ((connects_owners rfl).of_ends hends).congr fun declared name => ?_
  simp only [mem_usages, annotated?, bind_find?_ancestors]
  grind

end Java

namespace Kotlin

def IsUsage (v : View) (p : Place) (name : String) : Prop :=
  (v.root.Reaches p ∧ p.node.named = true ∧ p.kind = "annotation") ∧
    String.ofList (annotationName (v.chars p)) = name ∧ name ≠ ""

def declaredName? (v : View) (declaration : Place) : Option String :=
  if declaration.kind == "property_declaration" then propertyName? v declaration else declarationName? v declaration

lemma mem_usages : (p, name) ∈ usages v ↔ IsUsage v p name := by
  rw [usages, List.mem_filterMap, IsUsage]
  constructor
  · rintro ⟨q, hq, hu⟩
    dsimp only at hu
    split at hu
    · cases hu
    · rename_i hne
      obtain ⟨rfl, rfl⟩ := Prod.mk.inj (Option.some.inj hu)
      exact ⟨Place.mem_namedDescendants_singleton.mp hq, rfl, by simpa using hne⟩
  · rintro ⟨hp, rfl, hne⟩
    exact ⟨p, Place.mem_namedDescendants_singleton.mpr hp, if_neg (by simpa using hne)⟩

lemma connects_annotations (v : View) :
    (Pass.runAll passes v).Connects .annotatedWith fun declared name =>
      ∃ p d, IsUsage v p name ∧ FirstWith (·.isAny annotatedKinds = true) p.ancestors d ∧
        declaredName? v d = some declared := by
  have hends : (Pass.runAll passes v).ends .annotatedWith = _ :=
    Pass.ends_runAll (findEdges v) 6 rfl (by simp [edgeKinds])
  refine ((connects_owners rfl).of_ends hends).congr fun declared name => ?_
  simp only [annotated?, bind_find?_ancestors, Prod.exists, mem_usages, declaredName?]
  grind

lemma pairwise_usages (v : View) : (usages v).Pairwise fun a b => notAfter a.1.address b.1.address = true := by
  rw [usages, List.pairwise_filterMap]
  refine (v.root.pairwise_notAfter_namedDescendants ["annotation"]).imp fun {q r} hqr a ha b hb => ?_
  rw [Option.ite_none_left_eq_some] at ha hb
  obtain rfl := Option.some.inj ha.2
  obtain rfl := Option.some.inj hb.2
  exact hqr

def usageSymbol (v : View) (usage : Place × String) : Symbol :=
  v.symbol usage.1 .annotationType usage.2 (v.collapsed usage.1)

lemma annotationSymbols_eq (v : View) : (Pass.runAll passes v).ofKinds [.annotationType] =
    distinctBy Symbol.name ((usages v).map (usageSymbol v)) := (sortedByKind v).ofKinds_runAll 6 rfl

lemma mem_names_annotationSymbols :
    name ∈ ((Pass.runAll passes v).ofKinds [.annotationType]).map (·.name) ↔ ∃ p, IsUsage v p name := by
  have hnames : ((usages v).map (usageSymbol v)).map Symbol.name = (usages v).map Prod.snd := List.map_map
  rw [annotationSymbols_eq, mem_map_distinctBy, hnames, List.mem_map]
  simp only [Prod.exists, exists_eq_right, mem_usages]

lemma exists_first_usage {s : Symbol} (h : s ∈ (Pass.runAll passes v).ofKinds [.annotationType]) :
    ∃ p, IsUsage v p s.name ∧ (∀ q, IsUsage v q s.name → notAfter p.address q.address = true) ∧
      s = v.symbol p .annotationType s.name (v.collapsed p) := by
  rw [annotationSymbols_eq] at h
  obtain ⟨_, _, hsymbols, -, hfirst⟩ := firstWith_of_mem_distinctBy h
  obtain ⟨earlier, rest, husages, rfl, hrest⟩ := List.map_eq_append_iff.mp hsymbols
  obtain ⟨⟨p, name⟩, later, rfl, rfl, rfl⟩ := List.map_eq_cons_iff.mp hrest
  have hpairs := pairwise_usages v
  rw [husages, List.pairwise_append, List.pairwise_cons] at hpairs
  have hp : (p, name) ∈ usages v := by simp [husages]
  refine ⟨p, mem_usages.mp hp, fun q hq => ?_, rfl⟩
  have hmem : (q, name) ∈ usages v := mem_usages.mpr hq
  rw [husages, List.mem_append, List.mem_cons] at hmem
  rcases hmem with he | he | hl
  · exact absurd rfl (hfirst (usageSymbol v (q, name)) (List.mem_map_of_mem he))
  · rw [(Prod.mk.inj he).1]
    exact notAfter_of_prefix List.prefix_rfl
  · exact hpairs.2.1.1 _ hl

end Kotlin

namespace Cpp

lemma mem_named {kind : String} :
    (p, name) ∈ named v [kind] ↔
      (v.root.Reaches p ∧ p.node.named = true ∧ p.kind = kind) ∧ typeName? v p = some name := by
  rw [named, List.mem_filterMap, ← Place.mem_namedDescendants_singleton]
  simp

lemma connects_templates (v : View) :
    let all := Pass.runAll passes v
    all.Connects .uses fun user template =>
      ∃ p q, (v.root.Reaches p ∧ p.node.named = true ∧ p.kind = "template_type") ∧ typeName? v p = some template ∧
        FirstWith (fun q => q.isAny templateUsers = true ∧ (all.nameOf? q).isSome = true) p.ancestors q ∧
        all.nameOf? q = some user := by
  intro all
  let found := Pass.runAll (passes.take 13) v
  have hnames (q : Place) : all.nameOf? q = found.nameOf? q := by
    have hall : all.declared = found.declared := List.append_nil _
    rw [nameOf?, nameOf?, hall]
  have hends : all.ends .uses = _ := Pass.ends_runAll (findEdges v) 13 rfl (by simp [edgeKinds])
  refine ((connects_owners rfl).of_ends hends).congr fun user template => ?_
  simp only [hnames, Prod.exists, mem_named, Findings.enclosing?_eq_some]
  constructor
  · rintro ⟨p, name, ⟨hp, hname⟩, ⟨q, hq, hu⟩, rfl⟩
    exact ⟨p, q, hp, hname, hq, hu⟩
  · rintro ⟨p, q, hp, hname, hq, hu⟩
    exact ⟨p, template, ⟨hp, hname⟩, ⟨q, hq, hu⟩, rfl⟩

end Cpp

/-- In Java and Kotlin, each usage of an annotation has an edge from the nearest declaration above it, if that one has a
name, and in Kotlin each name has one symbol, that of its first usage. In C++, each use of a template has an edge from
the nearest declared function or class around it. No edge is there twice, and there are no others. -/
theorem usages_have_one_edge_from_nearest_declaration (v : View) :
    let java := Pass.runAll Java.passes v
    let kotlin := Pass.runAll Kotlin.passes v
    let cpp := Pass.runAll Cpp.passes v
    let annotations := kotlin.ofKinds [.annotationType]
    java.Connects .annotatedWith (fun declared name =>
      ∃ p d, Java.IsUsage v.root p ∧ v.text p = name ∧ FirstWith (·.isAny Java.annotatedKinds = true) p.ancestors d ∧
        Java.declaredName? v d = some declared) ∧
    kotlin.Connects .annotatedWith (fun declared name =>
      ∃ p d, Kotlin.IsUsage v p name ∧ FirstWith (·.isAny Kotlin.annotatedKinds = true) p.ancestors d ∧
        Kotlin.declaredName? v d = some declared) ∧
    (annotations.map (·.name)).Nodup ∧
    (∀ name, name ∈ annotations.map (·.name) ↔ ∃ p, Kotlin.IsUsage v p name) ∧
    (∀ s ∈ annotations, ∃ p, Kotlin.IsUsage v p s.name ∧
      (∀ q, Kotlin.IsUsage v q s.name → notAfter p.address q.address = true) ∧
      s = v.symbol p .annotationType s.name (v.collapsed p)) ∧
    cpp.Connects .uses fun user template =>
      ∃ p q, (v.root.Reaches p ∧ p.node.named = true ∧ p.kind = "template_type") ∧
        Cpp.typeName? v p = some template ∧
        FirstWith (fun q => q.isAny Cpp.templateUsers = true ∧ (cpp.nameOf? q).isSome = true) p.ancestors q ∧
        cpp.nameOf? q = some user := by
  intro java kotlin cpp annotations
  refine ⟨Java.connects_annotations v, Kotlin.connects_annotations v, ?_, ?_, ?_, Cpp.connects_templates v⟩
  · have hsymbols : annotations = _ := Kotlin.annotationSymbols_eq v
    rw [hsymbols]
    exact nodup_map_distinctBy _
  · exact fun _ => Kotlin.mem_names_annotationSymbols
  · exact fun _ => Kotlin.exists_first_usage

end SourceAtlas
