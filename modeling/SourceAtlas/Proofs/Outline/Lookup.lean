import SourceAtlas.Proofs.Spans.Nesting

namespace SourceAtlas

namespace Outline

variable {f : Outline} {s c : Symbol} {name : String}

inductive Holds (f : Outline) : Symbol → Prop
  | top {s : Symbol} (h : s ∈ f.symbols) : f.Holds s
  | member {s c : Symbol} (h : f.Holds s) (hc : c ∈ s.children) : f.Holds c

def IsFlat (f : Outline) : Prop := ∀ s ∈ f.symbols, ∀ c ∈ s.children, c.children = []

lemma Holds.top_or_member (h : f.Holds s) (hf : f.IsFlat) : s ∈ f.symbols ∨ ∃ t ∈ f.symbols, s ∈ t.children := by
  induction h with
  | top h => exact .inl h
  | @member s c _ hc ih =>
    rcases ih with hs | ⟨t, ht, hs⟩
    · exact .inr ⟨s, hs, hc⟩
    · rw [hf t ht s hs] at hc
      cases hc

lemma find?_of_named (h : ∃ u ∈ f.symbols, u.name = name) :
    ∃ t ∈ f.symbols, f.find? name = some t ∧ t.name = name := by
  obtain ⟨u, hu, hn⟩ := h
  obtain ⟨t, ht, hfind, hname⟩ := exists_find?_of_mem (p := fun s => s.name == name) hu (beq_iff_eq.mpr hn)
  refine ⟨t, ht, ?_, beq_iff_eq.mp hname⟩
  rw [find?, hfind, Option.some_or]

lemma find?_of_unnamed (h : ¬ ∃ u ∈ f.symbols, u.name = name) (hs : s ∈ f.symbols) (hc : c ∈ s.children)
    (hn : c.name = name) : ∃ u ∈ f.symbols, ∃ t ∈ u.children, f.find? name = some t ∧ t.name = name := by
  have hnone : f.symbols.find? (·.name == name) = none :=
    List.find?_eq_none.mpr fun u hu he => h ⟨u, hu, beq_iff_eq.mp he⟩
  have hchild : (s.child? name).isSome := List.find?_isSome.mpr ⟨c, hc, beq_iff_eq.mpr hn⟩
  have hsome : (f.symbols.findSome? (·.child? name)).isSome :=
    List.findSome?_isSome_iff.mpr ⟨s, hs, hchild⟩
  obtain ⟨t, ht⟩ := Option.isSome_iff_exists.mp hsome
  obtain ⟨u, hu, htu⟩ := List.exists_of_findSome?_eq_some ht
  refine ⟨u, hu, t, List.mem_of_find?_eq_some htu, ?_, by simpa using List.find?_some htu⟩
  rw [find?, hnone, Option.none_or, ht]

lemma Holds.exists_find? (h : f.Holds s) (hf : f.IsFlat) :
    ∃ t, f.find? s.name = some t ∧ t.name = s.name ∧ f.Holds t ∧
      ((∃ u ∈ f.symbols, u.name = s.name) → t ∈ f.symbols) := by
  by_cases hn : ∃ u ∈ f.symbols, u.name = s.name
  · obtain ⟨t, ht, hfind, hname⟩ := find?_of_named hn
    exact ⟨t, hfind, hname, .top ht, fun _ => ht⟩
  · rcases h.top_or_member hf with hs | ⟨owner, ho, hs⟩
    · exact absurd ⟨s, hs, rfl⟩ hn
    · obtain ⟨u, hu, t, ht, hfind, hname⟩ := find?_of_unnamed hn ho hs rfl
      exact ⟨t, hfind, hname, .member (.top hu) ht, fun h => absurd h hn⟩

end Outline

variable {s : Symbol}

lemma View.Locates.flat {v : View} (h : v.Locates s) : ∀ c ∈ s.children, c.children = [] := by
  obtain ⟨p, -, -, hc⟩ := h
  exact fun c hm => (hc c hm).1

lemma Package.children_of_mem_inferred {roots : List String} {path : Path} (h : s ∈ inferred roots path) :
    s.children = [] := by
  simp only [inferred] at h
  split at h
  · cases h
  · rw [List.mem_singleton.mp h]

lemma Reader.children_of_mem_impliedPackages {reader : Reader} {path : Path}
    (h : s ∈ reader.impliedPackages path) : s.children = [] := by
  cases reader with
  | objCpp => cases h
  | single g =>
    cases g with
    | kotlin => exact Package.children_of_mem_inferred h
    | java => exact Package.children_of_mem_inferred h
    | _ => cases h

lemma Reader.exists_flat_extraction {disk : Disk} {file : ScannedFile} {stored : StoredFile} (reader : Reader)
    (moduleName : Option String) (hr : disk.read file.diskPath = .ok stored) :
    ∃ outline, (reader.extraction id moduleName disk file).outline? = some outline ∧ outline.IsFlat := by
  obtain ⟨outline, ho, hs⟩ := reader.exists_located_extraction moduleName hr
  refine ⟨outline, ho, fun s hm => ?_⟩
  rcases hs s hm with h | ⟨_, -, _, -, h⟩
  · simp [children_of_mem_impliedPackages h]
  · exact h.flat

/-- What any extractor finds in a file is flat, so that a symbol is found under each name that occurs in it, and
one of the top level wherever there is one. -/
theorem every_symbol_is_found_by_name (e : Extractor) (he : e ∈ Extractor.all) (disk : Disk) (modules : GoModules)
    (file : ScannedFile) (stored : StoredFile) (hr : disk.read file.diskPath = .ok stored) :
    ∃ extraction outline,
      (e.run disk modules file).1 = .returned extraction ∧ extraction.outline? = some outline ∧ outline.IsFlat ∧
        ∀ s, outline.Holds s → ∃ t, outline.find? s.name = some t ∧ t.name = s.name ∧ outline.Holds t ∧
          ((∃ u ∈ outline.symbols, u.name = s.name) → t ∈ outline.symbols) := by
  obtain ⟨reader, rfl⟩ := Reader.exists_extractor_eq he
  obtain ⟨outline, ho, hf⟩ := reader.exists_flat_extraction (modules.moduleFor disk file.diskPath).1 hr
  exact ⟨_, outline, reader.run_extractor disk modules file, ho, hf, fun s hs => hs.exists_find? hf⟩

/-- A class inside another is a symbol of the top level next to it. Its method with the name of the outer class
stays behind that class, the other one is found. -/
theorem nested_class_and_its_method_are_found_by_name :
    let node (kind : String) (start stop : ℕ) (children : List Node) : Node :=
      ⟨kind, true, none, start, stop, {}, children⟩
    let inner := node "class_declaration" 10 43
      [node "type_identifier" 16 17 [],
        node "class_body" 18 43
          [node "function_declaration" 20 30 [node "simple_identifier" 24 25 []],
            node "function_declaration" 31 41 [node "simple_identifier" 35 36 []]]]
    let outer := node "class_declaration" 0 45
      [node "type_identifier" 6 7 [], node "class_body" 8 45 [inner]]
    let source := "class A \x7b class B \x7b fun A() \x7b\x7d fun g() \x7b\x7d \x7d \x7d"
    let stored : StoredFile := ⟨source.toUTF8.data.toList, [(.kotlin, node "source_file" 0 45 [outer])]⟩
    let disk : Disk := ⟨[([.normal "A.kt"], .file stored)]⟩
    let file : ScannedFile := ⟨⟨"A.kt"⟩, ⟨"A.kt"⟩, "kotlin"⟩
    ∃ extraction outline,
      (Extractor.kotlin.run disk {} file).1 = .returned extraction ∧ extraction.outline? = some outline ∧
        outline.symbols.map (fun s => (s.name, s.children.map (·.name))) = [("A", []), ("B", ["A", "g"])] ∧
        (∃ s, outline.find? "A" = some s ∧ s ∈ outline.symbols) ∧ ∃ s, outline.find? "g" = some s := by
  intro node inner outer source stored disk file
  have hnames : (disk.extract file .kotlin Kotlin.passes).outline?.map
      (fun outline => outline.symbols.map fun s => (s.name, s.children.map (·.name))) =
        some [("A", []), ("B", ["A", "g"])] := by decide +kernel
  have hr : disk.read ⟨"A.kt"⟩ = .ok stored := rfl
  obtain ⟨_, outline, hrun, ho, -, hfound⟩ :=
    every_symbol_is_found_by_name .kotlin (by simp [Extractor.all]) disk {} file stored hr
  have hsymbols : outline.symbols.map (fun s => (s.name, s.children.map (·.name))) =
      [("A", []), ("B", ["A", "g"])] := by
    rw [← Attempt.returned.inj hrun] at ho
    exact Option.some.inj ((congrArg (Option.map _) ho).symm.trans hnames)
  obtain ⟨a, _, hs, ha, hothers⟩ := List.map_eq_cons_iff.mp hsymbols
  obtain ⟨b, _, rfl, hb, -⟩ := List.map_eq_cons_iff.mp hothers
  obtain ⟨_, _, hc, -, hmethods⟩ := List.map_eq_cons_iff.mp (congrArg Prod.snd hb)
  obtain ⟨g, _, rfl, hg, -⟩ := List.map_eq_cons_iff.mp hmethods
  have hma : a ∈ outline.symbols := by simp [hs]
  have hmb : b ∈ outline.symbols := by simp [hs]
  have hname : a.name = "A" := congrArg Prod.fst ha
  obtain ⟨t, ht, -, -, htop⟩ := hfound a (.top hma)
  obtain ⟨u, hu, -⟩ := hfound g (.member (.top hmb) (by simp [hc]))
  exact ⟨_, outline, hrun, ho, hsymbols, ⟨t, hname ▸ ht, htop ⟨a, hma, rfl⟩⟩, u, hg ▸ hu⟩

end SourceAtlas
