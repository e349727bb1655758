import SourceAtlas.Proofs.Merge.Symbols

namespace SourceAtlas

def Symbol.memberNames (s : Symbol) : List String := s.children.map (·.name)

namespace Outline

variable {f : Outline} {name : String}

def CallersNamed (f : Outline) : Prop := ∀ d ∈ f.dependenciesOf .call, d.source ∈ f.names

instance : Decidable f.CallersNamed :=
  inferInstanceAs (Decidable (∀ d ∈ f.dependenciesOf .call, d.source ∈ f.names))

lemma mem_names : name ∈ f.names ↔ ∃ s ∈ f.symbols, s.name = name ∨ name ∈ s.memberNames := by
  simp only [names, List.mem_flatMap, List.mem_cons, Symbol.memberNames, eq_comm]

lemma mem_dependenciesOf {kind : DependencyKind} {d : Dependency} :
    d ∈ f.dependenciesOf kind ↔ d ∈ f.dependencies ∧ d.kind = kind := by
  simp only [dependenciesOf, List.mem_filter, beq_iff_eq]

end Outline

namespace ObjCpp

variable {all : List Symbol} {s t : Symbol} {cpp objc : Outline} {name : String} {d : Dependency}

def Kept (all : List Symbol) (s : Symbol) : Prop :=
  if s.kind ∈ blockKinds then LastWith (·.key = s.key) all s else FirstWith (·.key = s.key) all s

lemma kept_unique (hs : Kept all s) (ht : Kept all t) (hk : s.key = t.key) : s = t := by
  have hkind : s.kind = t.kind := congrArg Prod.fst hk
  unfold Kept at hs ht
  rw [← hk, ← hkind] at ht
  split at hs
  · rename_i hb
    rw [if_pos hb] at ht
    exact hs.unique ht
  · rename_i hb
    rw [if_neg hb] at ht
    exact hs.unique ht

lemma kept_of_mem_mergeSymbols (h : s ∈ mergeSymbols all) : Kept all s := by
  have hone := oneForEachKey_mergeSymbols all
  unfold Kept
  split
  · exact hone.last s h ‹_›
  · exact hone.first s h ‹_›

lemma Kept.mem (h : Kept all s) : s ∈ all := by
  unfold Kept at h
  split at h
  · exact h.mem
  · exact h.mem

lemma exists_same_key (h : s ∈ all) : ∃ t ∈ mergeSymbols all, t.key = s.key := by
  have hkeys := (oneForEachKey_mergeSymbols all).same_keys s.key
  exact mem_keys.mp (hkeys.mpr (mem_keys.mpr ⟨s, h, rfl⟩))

lemma mem_mergeSymbols : s ∈ mergeSymbols all ↔ Kept all s := by
  refine ⟨kept_of_mem_mergeSymbols, fun h => ?_⟩
  obtain ⟨t, ht, hk⟩ := exists_same_key h.mem
  rwa [kept_unique h (kept_of_mem_mergeSymbols ht) hk.symm]

lemma mem_names_merge : name ∈ (merge cpp objc).names ↔
    (∃ s ∈ cpp.symbols ++ objc.symbols, s.name = name) ∨
      ∃ s, Kept (cpp.symbols ++ objc.symbols) s ∧ name ∈ s.memberNames := by
  rw [Outline.mem_names]
  constructor
  · rintro ⟨s, hs, rfl | hm⟩
    · exact Or.inl ⟨s, mem_of_mem_mergeSymbols hs, rfl⟩
    · exact Or.inr ⟨s, mem_mergeSymbols.mp hs, hm⟩
  · rintro (⟨s, hs, rfl⟩ | ⟨s, hs, hm⟩)
    · obtain ⟨t, ht, hk⟩ := exists_same_key hs
      exact ⟨t, ht, Or.inl (congrArg Prod.snd hk)⟩
    · exact ⟨s, mem_mergeSymbols.mpr hs, Or.inr hm⟩

lemma mem_calls_of_mem_merge (h : d ∈ (merge cpp objc).dependenciesOf .call) :
    d ∈ cpp.dependenciesOf .call ∨ d ∈ objc.dependenciesOf .call := by
  obtain ⟨hd, hk⟩ := Outline.mem_dependenciesOf.mp h
  rcases List.mem_append.mp (mem_of_mem_distinctBy hd) with hd | hd
  · exact Or.inl (Outline.mem_dependenciesOf.mpr ⟨hd, hk⟩)
  · exact Or.inr (Outline.mem_dependenciesOf.mpr ⟨hd, hk⟩)

lemma caller_in_readings (hc : cpp.CallersNamed) (ho : objc.CallersNamed)
    (h : d ∈ (merge cpp objc).dependenciesOf .call) :
    ∃ s ∈ cpp.symbols ++ objc.symbols, s.name = d.source ∨ d.source ∈ s.memberNames := by
  rcases mem_calls_of_mem_merge h with hd | hd
  · obtain ⟨s, hs, hn⟩ := Outline.mem_names.mp (hc d hd)
    exact ⟨s, List.mem_append_left _ hs, hn⟩
  · obtain ⟨s, hs, hn⟩ := Outline.mem_names.mp (ho d hd)
    exact ⟨s, List.mem_append_right _ hs, hn⟩

/-- If the callers of both readings are named there, then a caller of the merged outline is named in it exactly
if it is a symbol of one of the readings or a member of a symbol that stays. Otherwise it was a member of a
symbol whose place another one with the same key has taken. -/
theorem merge_loses_only_members_of_replaced_symbols (cpp objc : Outline) (hc : cpp.CallersNamed)
    (ho : objc.CallersNamed) :
    let all := cpp.symbols ++ objc.symbols
    let merged := merge cpp objc
    ∀ d ∈ merged.dependenciesOf .call,
      (d.source ∈ merged.names ↔
        (∃ s ∈ all, s.name = d.source) ∨ ∃ s, Kept all s ∧ d.source ∈ s.memberNames) ∧
      (d.source ∉ merged.names →
        ∃ s ∈ all, d.source ∈ s.memberNames ∧ s ∉ merged.symbols ∧ ∃ t ∈ merged.symbols, t.key = s.key) := by
  intro all merged d hd
  refine ⟨mem_names_merge, fun hn => ?_⟩
  obtain ⟨s, hs, hname | hm⟩ := caller_in_readings hc ho hd
  · exact absurd (mem_names_merge.mpr (Or.inl ⟨s, hs, hname⟩)) hn
  · refine ⟨s, hs, hm, fun hs' => hn ?_, exists_same_key hs⟩
    exact Outline.mem_names.mpr ⟨s, hs', Or.inr hm⟩

theorem merge_keeps_class_method_and_loses_replaced_one :
    let member (kind : SymbolKind) (name : String) : Symbol := ⟨name, kind, name, {}, "", []⟩
    let cpp : Outline :=
      { path := ⟨"a.mm"⟩, language := .objCpp, dependencies := [.edge .call "go" "run"],
        symbols := [⟨"Impl", .classType, "class Impl", {}, "", [member .method "go"]⟩] }
    let objc : Outline :=
      { path := ⟨"a.mm"⟩, language := .objCpp, dependencies := [.edge .call "c:" "b:c:"],
        symbols :=
          [⟨"zeta", .implementation, "@implementation zeta", {}, "", [member .methodImplementation "c:"]⟩,
            ⟨"zeta", .implementation, "@implementation zeta", {}, "", [member .methodImplementation "u:"]⟩] }
    let all := cpp.symbols ++ objc.symbols
    let merged := merge cpp objc
    cpp.CallersNamed ∧ objc.CallersNamed ∧
      ((∃ s ∈ all, s.name = "go") ∨ ∃ s, Kept all s ∧ "go" ∈ s.memberNames) ∧
      ∃ s ∈ all, "c:" ∈ s.memberNames ∧ s ∉ merged.symbols ∧ ∃ t ∈ merged.symbols, t.key = s.key := by
  intro member cpp objc all merged
  have hc : cpp.CallersNamed := by decide +kernel
  have ho : objc.CallersNamed := by decide +kernel
  have hall := merge_loses_only_members_of_replaced_symbols cpp objc hc ho
  have hkept := hall (.edge .call "go" "run") (by decide +kernel)
  have hlost := hall (.edge .call "c:" "b:c:") (by decide +kernel)
  exact ⟨hc, ho, hkept.1.mp (by decide +kernel), hlost.2 (by decide +kernel)⟩

/-- Of two implementations of one class the second stays, and with the first goes the method from which its
call comes. -/
theorem second_implementation_takes_caller_of_first :
    let member (name : String) : Symbol := ⟨name, .methodImplementation, name, {}, "", []⟩
    let cpp : Outline := { path := ⟨"a.mm"⟩, language := .objCpp }
    let objc : Outline :=
      { path := ⟨"a.mm"⟩, language := .objCpp, dependencies := [.edge .call "c:" "b:c:"],
        symbols :=
          [⟨"zeta", .implementation, "@implementation zeta", {}, "", [member "c:"]⟩,
            ⟨"zeta", .implementation, "@implementation zeta", {}, "", [member "u:"]⟩] }
    cpp.CallersNamed ∧ objc.CallersNamed ∧ ¬ (merge cpp objc).CallersNamed := by
  decide +kernel

end ObjCpp

end SourceAtlas
