import Mathlib.Data.List.Nodup
import SourceAtlas.Extract.Cpp
import SourceAtlas.Extract.Java
import SourceAtlas.Extract.Kotlin
import SourceAtlas.Proofs.Calls.Grounded
import SourceAtlas.Proofs.Merge.Distinct
import SourceAtlas.Proofs.Spans.Located

namespace SourceAtlas

namespace Findings

variable {f : Findings} {kind : DependencyKind} {kinds : List DependencyKind} {source target : String}

def ends (f : Findings) (kind : DependencyKind) : List (String × String) :=
  (f.dependencies.filter (·.kind == kind)).map fun d => (d.source, d.target)

lemma ends_append (f g : Findings) (kind : DependencyKind) : (f ++ g).ends kind = f.ends kind ++ g.ends kind := by
  rw [ends, append_dependencies, List.filter_append, List.map_append, ends, ends]

lemma map_ends (f : Findings) (kind : DependencyKind) :
    (f.ends kind).map (kind, ·) = (f.dependencies.filter (·.kind == kind)).map Dependency.key := by
  rw [ends, List.map_map]
  apply List.map_congr_left
  intro d hd
  rw [Function.comp_apply, Dependency.key, eq_of_beq (List.mem_filter.mp hd).2]

lemma mem_ends : (source, target) ∈ f.ends kind ↔ (kind, source, target) ∈ f.dependencies.map Dependency.key := by
  simp only [ends, List.mem_map, List.mem_filter, beq_iff_eq, Dependency.key, Prod.mk.injEq]
  grind

lemma nodup_ends (h : (f.dependencies.map Dependency.key).Nodup) : (f.ends kind).Nodup := by
  apply List.Nodup.of_map (kind, ·)
  rw [map_ends]
  exact h.sublist (List.filter_sublist.map _)

/-- The edges of a kind lead from the sources to the targets of a relation, and each of its pairs has one edge. -/
structure Connects (f : Findings) (kind : DependencyKind) (related : String → String → Prop) : Prop where
  distinct : (f.ends kind).Nodup
  complete : ∀ source target, (source, target) ∈ f.ends kind ↔ related source target

lemma Connects.congr {related other : String → String → Prop} (h : f.Connects kind related)
    (ho : ∀ source target, related source target ↔ other source target) : f.Connects kind other where
  distinct := h.distinct
  complete source target := (h.complete source target).trans (ho source target)

lemma Connects.of_ends {g : Findings} {related : String → String → Prop} (h : g.Connects kind related)
    (he : f.ends kind = g.ends kind) : f.Connects kind related where
  distinct := he ▸ h.distinct
  complete := he ▸ h.complete

lemma connects_owners {α : Type} {items : List α} {owner? : α → Option String} {name : α → String}
    (h : f.dependencies = distinctBy Dependency.key (items.filterMap fun x =>
      (owner? x).map fun owner => .edge kind owner (name x))) :
    f.Connects kind fun source target => ∃ x ∈ items, owner? x = some source ∧ name x = target where
  distinct := by
    apply nodup_ends
    rw [h]
    exact nodup_map_distinctBy _
  complete source target := by
    rw [mem_ends, h, mem_map_distinctBy]
    simp only [List.mem_map, List.mem_filterMap, Option.map_eq_some_iff]
    constructor
    · rintro ⟨_, ⟨x, hx, owner, ho, rfl⟩, hkey⟩
      simp only [Dependency.key, Dependency.edge, Prod.mk.injEq, true_and] at hkey
      exact ⟨x, hx, hkey.1 ▸ ho, hkey.2⟩
    · rintro ⟨x, hx, ho, rfl⟩
      exact ⟨_, ⟨x, hx, source, ho, rfl⟩, rfl⟩

def EdgesAmong (kinds : List DependencyKind) (f : Findings) : Prop := ∀ d ∈ f.dependencies, d.kind ∈ kinds

lemma edgesAmong_of_no_edges (h : f.dependencies = []) : f.EdgesAmong kinds := by
  intro d hd
  rw [h] at hd
  cases hd

lemma edgesAmong_concat_map {α : Type} {items : List α} {find : α → Findings}
    (h : ∀ x ∈ items, (find x).EdgesAmong kinds) : (concat (items.map find)).EdgesAmong kinds := by
  induction items with
  | nil => exact edgesAmong_of_no_edges rfl
  | cons x items ih =>
    obtain ⟨hx, hitems⟩ := List.forall_mem_cons.mp h
    intro d hd
    exact (List.mem_append.mp hd).elim (hx d) (ih hitems d)

lemma edgesAmong_map {α : Type} {items : List α} {edge : α → Dependency} (hf : f.dependencies = items.map edge)
    (h : ∀ x, (edge x).kind ∈ kinds) : f.EdgesAmong kinds := by
  rw [EdgesAmong, hf]
  exact List.forall_mem_map.mpr fun x _ => h x

lemma edgesAmong_filterMap {α β : Type} {items : List α} {known : α → Option β} {edge : α → β → Dependency}
    (hf : f.dependencies ⊆ items.filterMap fun x => (known x).map (edge x)) (h : ∀ x y, (edge x y).kind ∈ kinds) :
    f.EdgesAmong kinds :=
  fun d hd => forall_mem_filterMap_map (P := (·.kind ∈ kinds)) (fun x _ y => h x y) d (hf hd)

lemma ends_eq_nil (h : f.EdgesAmong kinds) (hk : kind ∉ kinds) : f.ends kind = [] := by
  rw [ends, List.map_eq_nil_iff, List.filter_eq_nil_iff]
  intro d hd he
  exact hk (eq_of_beq he ▸ h d hd)

end Findings

namespace Pass

variable {v : View} {kind : DependencyKind} {kinds : List DependencyKind} {table : List (Pass × List DependencyKind)}

def EdgesAmong (kinds : List DependencyKind) (v : View) (pass : Pass) : Prop :=
  ∀ found, (pass v found).EdgesAmong kinds

def FindEdges (v : View) (table : List (Pass × List DependencyKind)) : Prop :=
  ∀ entry ∈ table, EdgesAmong entry.2 v entry.1

lemma ends_after (h : FindEdges v table)
    (hk : ∀ entry ∈ table, kind ∉ entry.2) (found : Findings) :
    (after (table.map Prod.fst) v found).ends kind = found.ends kind := by
  induction table generalizing found with
  | nil => rfl
  | cons entry table ih =>
    obtain ⟨hp, hps⟩ := List.forall_mem_cons.mp h
    obtain ⟨hke, hks⟩ := List.forall_mem_cons.mp hk
    have hstep : (found ++ entry.1 v found).ends kind = found.ends kind := by
      rw [Findings.ends_append, Findings.ends_eq_nil (hp found) hke, List.append_nil]
    exact (ih hps hks _).trans hstep

lemma ends_runAll (h : FindEdges v table) (i : ℕ) {pass : Pass} (hi : table[i]? = some (pass, kinds))
    (hk : ∀ entry ∈ table.eraseIdx i, kind ∉ entry.2) :
    (runAll (table.map Prod.fst) v).ends kind = (pass v (runAll ((table.take i).map Prod.fst) v)).ends kind := by
  rw [List.eraseIdx_eq_take_drop_succ] at hk
  obtain ⟨hkb, hkl⟩ := List.forall_mem_append.mp hk
  have hbefore : FindEdges v (table.take i) := fun entry he => h entry (List.mem_of_mem_take he)
  have hlater : FindEdges v (table.drop (i + 1)) := fun entry he => h entry (List.mem_of_mem_drop he)
  have hfirst : (runAll ((table.take i).map Prod.fst) v).ends kind = [] := ends_after hbefore hkb {}
  have hpass : (table.map Prod.fst)[i]? = some pass := by rw [List.getElem?_map, hi, Option.map_some]
  rw [runAll_eq_after hpass, ← List.map_take, ← List.map_drop, ends_after hlater hkl, Findings.ends_append, hfirst,
    List.nil_append]

end Pass

open Findings

variable {v : View}

namespace Java

def edgeKinds : List (Pass × List DependencyKind) :=
  [(packages, []), (imports, [.importing]), (classes, [.inherits, .implementing]), (interfaces, [.inherits]),
    (enums, [.implementing]), (records, [.implementing]), (annotations, [.annotatedWith]), (calls, [.call])]

lemma edgesAmong_typeFindings {s : Symbol} {declared : List (Place × String)} {edges : List Dependency}
    {kinds : List DependencyKind} (h : ∀ d ∈ edges, d.kind ∈ kinds) :
    (typeFindings s declared edges).EdgesAmong kinds := h

lemma findEdges (v : View) : Pass.FindEdges v edgeKinds := by
  simp only [Pass.FindEdges, edgeKinds, List.forall_mem_cons, List.not_mem_nil, false_imp_iff, implies_true, and_true]
  refine ⟨?_, ?_, ?_, ?_, ?_, ?_, ?_, ?_⟩ <;> intro found
  · unfold packages
    split <;> exact edgesAmong_of_no_edges rfl
  · exact edgesAmong_map rfl fun _ => List.mem_singleton_self _
  · refine edgesAmong_concat_map fun d _ => edgesAmong_typeFindings (List.forall_mem_append.mpr ⟨?_, ?_⟩)
    · exact List.forall_mem_map.mpr fun _ _ => by simp
    · exact List.forall_mem_map.mpr fun _ _ => by simp
  · exact edgesAmong_concat_map fun d _ => edgesAmong_map rfl fun _ => List.mem_singleton_self _
  · exact edgesAmong_concat_map fun d _ => edgesAmong_map rfl fun _ => List.mem_singleton_self _
  · exact edgesAmong_concat_map fun d _ => edgesAmong_map rfl fun _ => List.mem_singleton_self _
  · exact edgesAmong_filterMap (fun _ => mem_of_mem_distinctBy) fun _ _ => List.mem_singleton_self _
  · exact edgesAmong_filterMap (List.Subset.refl _) fun _ _ => List.mem_singleton_self _

end Java

namespace Kotlin

def edgeKinds : List (Pass × List DependencyKind) :=
  [(packages, []), (imports, [.importing]), (classes, [.inherits]), (interfaces, [.inherits]), (functions, []),
    (topProperties, []), (annotations, [.annotatedWith]), (calls, [.call])]

lemma findEdges (v : View) : Pass.FindEdges v edgeKinds := by
  simp only [Pass.FindEdges, edgeKinds, List.forall_mem_cons, List.not_mem_nil, false_imp_iff, implies_true, and_true]
  refine ⟨?_, ?_, ?_, ?_, ?_, ?_, ?_, ?_⟩ <;> intro found
  · exact edgesAmong_of_no_edges rfl
  · exact edgesAmong_map rfl fun _ => List.mem_singleton_self _
  · exact edgesAmong_concat_map fun d _ => edgesAmong_map rfl fun _ => List.mem_singleton_self _
  · exact edgesAmong_concat_map fun d _ => edgesAmong_map rfl fun _ => List.mem_singleton_self _
  · exact edgesAmong_of_no_edges rfl
  · exact edgesAmong_of_no_edges rfl
  · exact edgesAmong_filterMap (fun _ => mem_of_mem_distinctBy) fun _ _ => List.mem_singleton_self _
  · exact edgesAmong_filterMap (List.Subset.refl _) fun _ _ => List.mem_singleton_self _

end Kotlin

namespace Cpp

def edgeKinds : List (Pass × List DependencyKind) :=
  [(includes, [.importing]), (namespaces, []), (classes, []), (unions, []), (enums, []), (templates, []),
    (functions, []), (operators, []), (typedefs, []), (macros, []), (calls, [.call]), (inheritance, [.inherits]),
    (overrides, [.overrides]), (templateUses, [.uses])]

lemma findEdges (v : View) : Pass.FindEdges v edgeKinds := by
  simp only [Pass.FindEdges, edgeKinds, List.forall_mem_cons, List.not_mem_nil, false_imp_iff, implies_true, and_true]
  refine ⟨?_, ?_, ?_, ?_, ?_, ?_, ?_, ?_, ?_, ?_, ?_, ?_, ?_, ?_⟩ <;> intro found
  · intro d hd
    obtain ⟨p, -, hp⟩ := List.mem_filterMap.mp hd
    dsimp only at hp
    split at hp
    · cases hp
    · rw [← Option.some.inj hp]
      exact List.mem_singleton_self _
  · exact edgesAmong_of_no_edges rfl
  · exact edgesAmong_concat_map fun t _ => edgesAmong_of_no_edges rfl
  · exact edgesAmong_concat_map fun t _ => edgesAmong_of_no_edges rfl
  · exact edgesAmong_of_no_edges rfl
  · refine edgesAmong_concat_map fun p _ => edgesAmong_of_no_edges ?_
    unfold templateFindings
    split <;> rfl
  · exact edgesAmong_of_no_edges rfl
  · exact edgesAmong_of_no_edges rfl
  · exact edgesAmong_of_no_edges rfl
  · exact edgesAmong_of_no_edges rfl
  · exact edgesAmong_filterMap (List.Subset.refl _) fun _ _ => List.mem_singleton_self _
  · refine List.forall_mem_flatMap.mpr fun p _ => ?_
    unfold baseEdges
    split
    · exact List.forall_mem_map.mpr fun _ _ => List.mem_singleton_self _
    · exact List.forall_mem_nil _
  · refine List.forall_mem_flatMap.mpr fun t _ => ?_
    exact List.forall_mem_map.mpr fun _ _ => List.mem_singleton_self _
  · exact edgesAmong_filterMap (fun _ => mem_of_mem_distinctBy) fun _ _ => List.mem_singleton_self _

end Cpp

end SourceAtlas
