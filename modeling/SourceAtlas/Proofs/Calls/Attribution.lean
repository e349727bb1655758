import Mathlib.Data.List.Forall2
import SourceAtlas.Proofs.Calls.Languages
import SourceAtlas.Registry

namespace SourceAtlas

/-- What a call yields: an edge from the nearest node above it that is of a caller's kind and declared, or
nothing if there is none. -/
inductive Attributed (found : Findings) (callers : List String) (site : CallSite) : List Dependency → Prop
  | inside {inner outer : List Place} {caller : Place} {name : String}
      (h : site.place.ancestors = inner ++ caller :: outer) (hk : caller.isAny callers = true)
      (hn : found.nameOf? caller = some name)
      (hi : ∀ p ∈ inner, p.isAny callers = true → found.nameOf? p = none) :
      Attributed found callers site [.edge .call name site.target]
  | outside (h : ∀ p ∈ site.place.ancestors, p.isAny callers = true → found.nameOf? p = none) :
      Attributed found callers site []

lemma attributed_enclosing (found : Findings) (callers : List String) (site : CallSite) :
    Attributed found callers site
      ((found.enclosing? callers site.place).map fun name => Dependency.edge .call name site.target).toList := by
  cases he : found.enclosing? callers site.place with
  | none =>
    refine .outside fun p hp hk => ?_
    have hnone := List.findSome?_eq_none_iff.mp he p hp
    rwa [if_pos hk] at hnone
  | some name =>
    obtain ⟨caller, ⟨inner, outer, h, ⟨hk, -⟩, hi⟩, hn⟩ := Findings.enclosing?_eq_some.mp he
    refine .inside h hk hn fun p hp hpk => ?_
    have hundeclared := mt (And.intro hpk) (hi p hp)
    simpa using hundeclared

lemma attributed_callEdges (found : Findings) (callers : List String) (sites : List CallSite) :
    ∃ yields, List.Forall₂ (Attributed found callers) sites yields ∧
      (callEdges callers found sites).dependencies = yields.flatten := by
  refine ⟨sites.map fun site =>
    ((found.enclosing? callers site.place).map fun name => Dependency.edge .call name site.target).toList, ?_, ?_⟩
  · rw [List.forall₂_map_right_iff]
    exact List.forall₂_same.mpr fun site _ => attributed_enclosing found callers site
  · rw [callEdges, Findings.ofDependencies, ← List.flatMap_def, List.filterMap_eq_flatMap_toList]

lemma mem_names_of_attributed {found : Findings} {kinds : List String} {sites : List CallSite}
    {yields : List (List Dependency)} (hf : found.Grounded)
    (h : List.Forall₂ (Attributed found kinds) sites yields) :
    ∀ d ∈ yields.flatten, d.kind = .call ∧ d.source ∈ found.names := by
  induction h with
  | nil => exact fun d hd => absurd hd List.not_mem_nil
  | cons hy _ ih =>
    intro d hd
    rcases List.mem_append.mp hd with hd | hd
    · cases hy with
      | inside _ _ hn _ =>
        obtain rfl := List.mem_singleton.mp hd
        exact ⟨rfl, Findings.mem_names_of_nameOf? hf hn⟩
      | outside _ => exact absurd hd List.not_mem_nil
    · exact ih d hd

lemma Disk.outline?_extract {disk : Disk} {file : ScannedFile} {language : Language} {stored : StoredFile}
    {tree : Node} (passes : List Pass) (hr : disk.read file.diskPath = .ok stored) (hs : stored.content ≠ [])
    (ht : stored.tree? (.ofFile language file.path) = some tree) :
    let found := Pass.runAll passes ⟨file.path, language, stored.content, .ofRoot tree⟩
    (disk.extract file language passes).outline? =
      some ⟨file.path, language, stored.content, found.symbols, found.dependencies⟩ := by
  rw [Disk.extract, Disk.readThen, hr]
  dsimp only
  rw [Extraction.ofStored, if_neg (by simpa using hs), ht]
  dsimp only
  split <;> rfl

inductive SingleGrammar where
  | go
  | javaScript
  | python
  | kotlin
  | java
  | swift
  | objC
  | cpp

namespace SingleGrammar

def extractor : SingleGrammar → Extractor
  | .go => .go
  | .javaScript => .javaScript
  | .python => .python
  | .kotlin => .kotlin
  | .java => .java
  | .swift => .swift
  | .objC => .objC
  | .cpp => .cpp

def language (file : ScannedFile) : SingleGrammar → Language
  | .go => .go
  | .javaScript => file.languageAmong [.javaScript, .typeScript] .javaScript
  | .python => .python
  | .kotlin => .kotlin
  | .java => .java
  | .swift => .swift
  | .objC => .objC
  | .cpp => file.languageAmong [.c, .cpp] .cpp

def passes (moduleName : Option String) : SingleGrammar → List Pass
  | .go => Go.passes moduleName
  | .javaScript => JavaScript.passes
  | .python => Python.passes
  | .kotlin => Kotlin.passes
  | .java => Java.passes
  | .swift => Swift.passes
  | .objC => ObjC.passes
  | .cpp => Cpp.passes

def beforeCalls (moduleName : Option String) : SingleGrammar → List Pass
  | .go => Go.beforeCalls moduleName
  | .javaScript => JavaScript.beforeCalls
  | .python => Python.beforeCalls
  | .kotlin => Kotlin.beforeCalls
  | .java => Java.beforeCalls
  | .swift => Swift.beforeCalls
  | .objC => ObjC.beforeCalls
  | .cpp => Cpp.beforeCalls

def callers : SingleGrammar → List String
  | .go => Go.callers
  | .javaScript => JavaScript.callers
  | .python => Python.callers
  | .kotlin => Kotlin.callers
  | .java => Java.callers
  | .swift => Swift.callers
  | .objC => ObjC.callers
  | .cpp => Cpp.callers

def callSites (v : View) : SingleGrammar → List CallSite
  | .go => Go.callSites v
  | .javaScript => JavaScript.callSites v
  | .python => Python.callSites v
  | .kotlin => Kotlin.callSites v
  | .java => Java.callSites v
  | .swift => Swift.callSites v
  | .objC => ObjC.callSites v
  | .cpp => Cpp.callSites v

/-- All trees, except for Java those with constructors in interfaces. -/
def Admits (root : Place) : SingleGrammar → Prop
  | .java => Java.InterfacesWithoutConstructors root
  | _ => True

variable {v : View}

lemma run_extractor (g : SingleGrammar) (disk : Disk) (modules : GoModules) (file : ScannedFile) :
    (g.extractor.run disk modules file).1 = .returned
      (disk.extract file (g.language file) (g.passes (modules.moduleFor disk file.diskPath).1)) := by
  cases g <;> rfl

lemma grounded_beforeCalls (g : SingleGrammar) (moduleName : Option String) (h : g.Admits v.root) :
    ∀ pass ∈ g.beforeCalls moduleName, Pass.Grounded v pass := by
  cases g with
  | go => exact Go.grounded_beforeCalls moduleName
  | javaScript => exact JavaScript.grounded_beforeCalls
  | python => exact Python.grounded_beforeCalls
  | kotlin => exact Kotlin.grounded_beforeCalls
  | java => exact Java.grounded_beforeCalls h
  | swift => exact Swift.grounded_beforeCalls
  | objC => exact ObjC.grounded_beforeCalls
  | cpp => exact Cpp.grounded_beforeCalls

lemma passes_eq (g : SingleGrammar) (moduleName : Option String) :
    ∃ later, (∀ v, ∀ pass ∈ later, Pass.Grounded v pass) ∧ g.passes moduleName =
      g.beforeCalls moduleName ++ (fun v found => callEdges g.callers found (g.callSites v)) :: later := by
  cases g with
  | cpp => exact ⟨[Cpp.inheritance, Cpp.overrides, Cpp.templateUses], fun _ => Cpp.grounded_afterCalls, rfl⟩
  | _ => exact ⟨[], by simp, rfl⟩

lemma runAll_calls (g : SingleGrammar) (moduleName : Option String) (h : g.Admits v.root) :
    let found := Pass.runAll (g.beforeCalls moduleName) v
    let all := Pass.runAll (g.passes moduleName) v
    ∃ yields, List.Forall₂ (Attributed found g.callers) (g.callSites v) yields ∧
      all.dependencies.filter (·.kind == .call) = yields.flatten ∧ ∀ d ∈ yields.flatten, d.source ∈ all.names := by
  intro found all
  obtain ⟨later, hl, hp⟩ := g.passes_eq moduleName
  have hf : found.Grounded := Pass.grounded_runAll (g.grounded_beforeCalls moduleName h)
  obtain ⟨yields, hy, hd⟩ := attributed_callEdges found g.callers (g.callSites v)
  have hcalls := mem_names_of_attributed hf hy
  let upToCalls := found ++ callEdges g.callers found (g.callSites v)
  have hall : all = Pass.after later v upToCalls := by
    simp only [all]
    rw [hp, Pass.runAll_append]
    rfl
  obtain ⟨hnames, hfilter⟩ := Pass.after_extends (hl v) upToCalls
  refine ⟨yields, hy, ?_, fun d hm => ?_⟩
  · have hkept : yields.flatten.filter (·.kind == .call) = yields.flatten :=
      List.filter_eq_self.mpr fun d hm => by simpa using (hcalls d hm).1
    rw [hall, hfilter, Findings.append_dependencies, List.filter_append, hf.quiet.filter_call, hd, hkept,
      List.nil_append]
  · rw [hall]
    apply hnames
    rw [Findings.append_names]
    exact List.mem_append_left _ (hcalls d hm).2

end SingleGrammar

/-- An extractor gives each call one edge from the nearest declared node of a caller's kind above it, or none
if there is no such node. These are the calls of the outline, in this order, and each comes from a name of a
symbol or of a member. -/
theorem calls_come_from_innermost_declarations (g : SingleGrammar) (disk : Disk) (modules : GoModules)
    (file : ScannedFile) (stored : StoredFile) (tree : Node) (hr : disk.read file.diskPath = .ok stored)
    (hs : stored.content ≠ []) (ht : stored.tree? (.ofFile (g.language file) file.path) = some tree)
    (ha : g.Admits (.ofRoot tree)) :
    let v : View := ⟨file.path, g.language file, stored.content, .ofRoot tree⟩
    let found := Pass.runAll (g.beforeCalls (modules.moduleFor disk file.diskPath).1) v
    ∃ extraction outline yields,
      (g.extractor.run disk modules file).1 = .returned extraction ∧ extraction.outline? = some outline ∧
        List.Forall₂ (Attributed found g.callers) (g.callSites v) yields ∧
        outline.dependenciesOf .call = yields.flatten ∧
        ∀ d ∈ outline.dependenciesOf .call, d.source ∈ outline.names := by
  intro v found
  obtain ⟨yields, hy, hd, hn⟩ := g.runAll_calls (v := v) (modules.moduleFor disk file.diskPath).1 ha
  refine ⟨_, _, yields, g.run_extractor disk modules file, Disk.outline?_extract _ hr hs ht, hy, hd, ?_⟩
  intro d hm
  exact hn d (hd ▸ hm)

/-- In Kotlin a local function is not declared, so that the call comes from the method around it. In Java the
constructor belongs to the class and not to the interface. -/
theorem call_in_local_function_comes_from_method :
    let node (kind : String) (field : Option String) (start stop : ℕ) (children : List Node) : Node :=
      ⟨kind, true, field, start, stop, {}, children⟩
    let kotlinTree := node "source_file" none 0 39
      [node "class_declaration" none 0 39
        [node "identifier" (some "name") 6 7 [],
          node "class_body" none 8 39
            [node "function_declaration" none 10 37
              [node "identifier" (some "name") 14 15 [],
                node "function_declaration" none 20 35
                  [node "identifier" (some "name") 24 25 [],
                    node "call_expression" none 30 33 [node "identifier" none 30 31 []]]]]]]
    let javaTree := node "program" none 0 50
      [node "interface_declaration" none 0 25
        [node "identifier" (some "name") 10 11 [],
          node "interface_body" (some "body") 12 25
            [node "method_declaration" none 14 23 [node "identifier" (some "name") 19 20 []]]],
        node "class_declaration" none 26 50
          [node "identifier" (some "name") 32 33 [],
            node "class_body" (some "body") 34 50
              [node "constructor_declaration" none 36 48
                [node "identifier" (some "name") 36 37 [],
                  node "method_invocation" none 42 45 [node "identifier" (some "name") 42 43 []]]]]]
    let bytes (text : String) : List UInt8 := text.toUTF8.data.toList
    let kotlinFile : StoredFile := ⟨bytes "class A { fun f() { fun g() { h() } } }", [(.kotlin, kotlinTree)]⟩
    let javaFile : StoredFile :=
      ⟨bytes "interface I { void f(); } class A { A() { h(); } }", [(.java, javaTree)]⟩
    let disk : Disk := ⟨[([.normal "A.kt"], .file kotlinFile), ([.normal "A.java"], .file javaFile)]⟩
    (∃ extraction outline,
      (Extractor.kotlin.run disk {} ⟨⟨"A.kt"⟩, ⟨"A.kt"⟩, "kotlin"⟩).1 = .returned extraction ∧
        extraction.outline? = some outline ∧
        (outline.dependenciesOf .call).map (fun d => (d.source, d.target)) = [("f", "h")] ∧
        ∀ d ∈ outline.dependenciesOf .call, d.source ∈ outline.names) ∧
      ∃ extraction outline,
        (Extractor.java.run disk {} ⟨⟨"A.java"⟩, ⟨"A.java"⟩, "java"⟩).1 = .returned extraction ∧
          extraction.outline? = some outline ∧
          ∀ d ∈ outline.dependenciesOf .call, d.source ∈ outline.names := by
  intro node kotlinTree javaTree bytes kotlinFile javaFile disk
  refine ⟨?_, ?_⟩
  · have hcalls : (disk.extract ⟨⟨"A.kt"⟩, ⟨"A.kt"⟩, "kotlin"⟩ .kotlin Kotlin.passes).outline?.map
        (fun outline => (outline.dependenciesOf .call).map fun d => (d.source, d.target)) =
          some [("f", "h")] := by decide +kernel
    obtain ⟨_, outline, _, hrun, ho, _, _, hn⟩ := calls_come_from_innermost_declarations .kotlin disk {}
      ⟨⟨"A.kt"⟩, ⟨"A.kt"⟩, "kotlin"⟩ kotlinFile kotlinTree rfl (by decide +kernel) rfl trivial
    have he := Attempt.returned.inj hrun
    refine ⟨_, outline, hrun, ho, ?_, hn⟩
    rw [← he] at ho
    exact Option.some.inj ((congrArg (Option.map _) ho).symm.trans hcalls)
  · have ha : Java.InterfacesWithoutConstructors (.ofRoot javaTree) := by
      unfold Java.InterfacesWithoutConstructors
      decide +kernel
    obtain ⟨_, outline, _, hrun, ho, _, _, hn⟩ := calls_come_from_innermost_declarations .java disk {}
      ⟨⟨"A.java"⟩, ⟨"A.java"⟩, "java"⟩ javaFile javaTree rfl (by decide +kernel) rfl ha
    exact ⟨_, outline, hrun, ho, hn⟩

end SourceAtlas
