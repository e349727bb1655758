import SourceAtlas.Distinct
import SourceAtlas.Extract.Findings
import SourceAtlas.Proofs.List.Search

namespace SourceAtlas

def Symbol.names (s : Symbol) : List String := s.name :: s.children.map (·.name)

namespace Dependency

variable {α : Type}

def Quiet (dependencies : List Dependency) : Prop := ∀ d ∈ dependencies, d.kind ≠ .call

@[simp] lemma edge_kind (kind : DependencyKind) (source target : String) : (edge kind source target).kind = kind :=
  rfl

@[simp] lemma ofImport_kind (name : String) (isExternal : Bool) (source : String) :
    (ofImport name isExternal source).kind = .importing := rfl

@[simp] lemma quiet_nil : Quiet [] := by simp [Quiet]

@[simp] lemma quiet_cons {d : Dependency} {ds : List Dependency} :
    Quiet (d :: ds) ↔ d.kind ≠ .call ∧ Quiet ds := List.forall_mem_cons

@[simp] lemma quiet_append {first second : List Dependency} :
    Quiet (first ++ second) ↔ Quiet first ∧ Quiet second := List.forall_mem_append

@[simp] lemma quiet_map {f : α → Dependency} {xs : List α} :
    Quiet (xs.map f) ↔ ∀ x ∈ xs, (f x).kind ≠ .call := List.forall_mem_map

@[simp] lemma quiet_flatMap {f : α → List Dependency} {xs : List α} :
    Quiet (xs.flatMap f) ↔ ∀ x ∈ xs, Quiet (f x) := List.forall_mem_flatMap

@[simp] lemma quiet_filterMap {f : α → Option Dependency} {xs : List α} :
    Quiet (xs.filterMap f) ↔ ∀ x ∈ xs, ∀ d ∈ f x, d.kind ≠ .call := by
  simp only [Quiet, List.mem_filterMap, Option.mem_def]
  grind

lemma Quiet.filter_call {ds : List Dependency} (h : Quiet ds) : ds.filter (·.kind == .call) = [] :=
  List.filter_eq_nil_iff.mpr fun d hd => by simpa using h d hd

lemma Quiet.distinctBy {κ : Type} [BEq κ] {key : Dependency → κ} {ds : List Dependency} (h : Quiet ds) :
    Quiet (distinctBy key ds) := by
  induction ds with
  | nil => exact quiet_nil
  | cons d ds ih =>
    obtain ⟨hd, hds⟩ := quiet_cons.mp h
    exact quiet_cons.mpr ⟨hd, fun e he => ih hds e (List.mem_filter.mp he).1⟩

end Dependency

namespace Findings

variable {f g : Findings} {fs : List Findings} {s : Symbol}

def names (f : Findings) : List String := f.symbols.flatMap Symbol.names

structure Grounded (f : Findings) : Prop where
  named : ∀ d ∈ f.declared, d.2 ∈ f.names
  quiet : Dependency.Quiet f.dependencies

@[simp] lemma append_dependencies (f g : Findings) :
    (f ++ g).dependencies = f.dependencies ++ g.dependencies := rfl

@[simp] lemma append_declared (f g : Findings) : (f ++ g).declared = f.declared ++ g.declared := rfl

lemma append_names (f g : Findings) : (f ++ g).names = f.names ++ g.names := List.flatMap_append

lemma grounded_of_no_declared (hd : f.declared = []) (hq : Dependency.Quiet f.dependencies) : f.Grounded :=
  ⟨by simp [hd], hq⟩

lemma grounded_empty : Grounded {} := grounded_of_no_declared rfl Dependency.quiet_nil

lemma grounded_ofSymbols (symbols : List Symbol) : (ofSymbols symbols).Grounded :=
  grounded_of_no_declared rfl Dependency.quiet_nil

lemma grounded_ofDependencies {dependencies : List Dependency} (h : Dependency.Quiet dependencies) :
    (ofDependencies dependencies).Grounded :=
  grounded_of_no_declared rfl h

lemma grounded_ofDeclarations (items : List (Place × Symbol)) : (ofDeclarations items).Grounded := by
  refine ⟨?_, Dependency.quiet_nil⟩
  intro d hd
  obtain ⟨⟨p, s⟩, hm, rfl⟩ := List.mem_map.mp hd
  exact List.mem_flatMap.mpr ⟨s, List.mem_map_of_mem hm, List.mem_cons_self⟩

lemma grounded_of_symbol (hs : f.symbols = [s]) (hd : ∀ d ∈ f.declared, d.2 ∈ s.names)
    (hq : Dependency.Quiet f.dependencies) : f.Grounded := by
  refine ⟨fun d hm => ?_, hq⟩
  rw [names, hs, List.flatMap_singleton]
  exact hd d hm

lemma grounded_block {declared : List (Place × String)} {edges : List Dependency}
    (hd : ∀ d ∈ declared, d.2 ∈ s.children.map (·.name)) (hq : Dependency.Quiet edges) :
    (ofSymbols [s] ++ ofDeclared declared ++ ofDependencies edges).Grounded := by
  refine grounded_of_symbol rfl ?_ hq
  simp only [append_declared, ofSymbols, ofDeclared, ofDependencies, List.nil_append, List.append_nil]
  intro d hm
  obtain ⟨e, he, rfl⟩ := List.mem_map.mp hm
  exact List.mem_cons_of_mem _ (hd e he)

lemma Grounded.append (hf : f.Grounded) (hg : g.Grounded) : (f ++ g).Grounded := by
  refine ⟨?_, ?_⟩
  · intro d hd
    rw [append_names]
    rcases List.mem_append.mp hd with hd | hd
    · exact List.mem_append_left _ (hf.named d hd)
    · exact List.mem_append_right _ (hg.named d hd)
  · intro d hd
    rcases List.mem_append.mp hd with hd | hd
    · exact hf.quiet d hd
    · exact hg.quiet d hd

lemma grounded_concat (h : ∀ f ∈ fs, f.Grounded) : (concat fs).Grounded := by
  induction fs with
  | nil => exact grounded_empty
  | cons f fs ih =>
    obtain ⟨hf, hfs⟩ := List.forall_mem_cons.mp h
    exact hf.append (ih hfs)

lemma mem_names_of_nameOf? {p : Place} {name : String} (h : f.Grounded) (hn : f.nameOf? p = some name) :
    name ∈ f.names := by
  obtain ⟨d, hd, rfl⟩ := Option.map_eq_some_iff.mp hn
  exact h.named d (List.mem_reverse.mp (List.mem_of_find?_eq_some hd))

lemma enclosing?_eq_some {kinds : List String} {p : Place} {name : String} :
    f.enclosing? kinds p = some name ↔
      ∃ q, FirstWith (fun q => q.isAny kinds = true ∧ (f.nameOf? q).isSome = true) p.ancestors q ∧
        f.nameOf? q = some name := by
  have hskip (q : Place) : (if q.isAny kinds then f.nameOf? q else none) = none ↔
      ¬ (q.isAny kinds = true ∧ (f.nameOf? q).isSome = true) := by
    split <;> simp_all
  rw [enclosing?, List.findSome?_eq_some_iff]
  constructor
  · rintro ⟨inner, q, outer, he, hq, hi⟩
    obtain ⟨hk, hn⟩ := Option.ite_none_right_eq_some.mp hq
    exact ⟨q, ⟨inner, outer, he, ⟨hk, by rw [hn, Option.isSome_some]⟩, fun r hr => (hskip r).mp (hi r hr)⟩, hn⟩
  · rintro ⟨q, ⟨inner, outer, he, ⟨hk, -⟩, hi⟩, hn⟩
    exact ⟨inner, q, outer, he, by rw [if_pos hk, hn], fun r hr => (hskip r).mpr (hi r hr)⟩

end Findings

namespace Pass

variable {passes : List Pass} {v : View} {found : Findings}

def Grounded (v : View) (pass : Pass) : Prop := ∀ found, (pass v found).Grounded

def after (passes : List Pass) (v : View) (found : Findings) : Findings :=
  passes.foldl (fun found pass => found ++ pass v found) found

lemma runAll_append (first second : List Pass) (v : View) :
    runAll (first ++ second) v = after second v (runAll first v) := by
  rw [runAll, List.foldl_append, after, runAll]

lemma runAll_eq_after {i : Nat} {pass : Pass} (h : passes[i]? = some pass) (v : View) :
    runAll passes v =
      after (passes.drop (i + 1)) v (runAll (passes.take i) v ++ pass v (runAll (passes.take i) v)) := by
  obtain ⟨hlt, hpass⟩ := List.getElem?_eq_some_iff.mp h
  have hsplit : passes.take i ++ pass :: passes.drop (i + 1) = passes := by
    rw [← hpass, List.getElem_cons_drop, List.take_append_drop]
  calc runAll passes v = runAll (passes.take i ++ pass :: passes.drop (i + 1)) v := by rw [hsplit]
    _ = _ := runAll_append _ _ v

lemma symbols_subset_after (found : Findings) : found.symbols ⊆ (after passes v found).symbols := by
  induction passes generalizing found with
  | nil => exact List.Subset.refl _
  | cons pass passes ih => exact List.Subset.trans (List.subset_append_left _ _) (ih (found ++ pass v found))

lemma grounded_after (h : ∀ pass ∈ passes, Grounded v pass) (hf : found.Grounded) :
    (after passes v found).Grounded := by
  induction passes generalizing found with
  | nil => exact hf
  | cons pass passes ih =>
    obtain ⟨hp, hps⟩ := List.forall_mem_cons.mp h
    exact ih hps (hf.append (hp found))

lemma grounded_runAll (h : ∀ pass ∈ passes, Grounded v pass) : (runAll passes v).Grounded :=
  grounded_after h Findings.grounded_empty

lemma after_extends (h : ∀ pass ∈ passes, Grounded v pass) (found : Findings) :
    found.names ⊆ (after passes v found).names ∧
      (after passes v found).dependencies.filter (·.kind == .call) =
        found.dependencies.filter (·.kind == .call) := by
  induction passes generalizing found with
  | nil => exact ⟨List.Subset.refl _, rfl⟩
  | cons pass passes ih =>
    obtain ⟨hp, hps⟩ := List.forall_mem_cons.mp h
    obtain ⟨hn, hd⟩ := ih hps (found ++ pass v found)
    refine ⟨fun name hm => hn ?_, ?_⟩
    · rw [Findings.append_names]
      exact List.mem_append_left _ hm
    · rw [Findings.append_dependencies, List.filter_append, (hp found).quiet.filter_call, List.append_nil] at hd
      exact hd

end Pass

end SourceAtlas
