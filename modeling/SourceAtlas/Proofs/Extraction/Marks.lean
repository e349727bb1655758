import Mathlib.Data.List.Forall2
import SourceAtlas.Proofs.Calls.Attribution
import SourceAtlas.Proofs.Unmarked.CFamily
import SourceAtlas.Proofs.Unmarked.Languages

namespace SourceAtlas

mutual

inductive Node.Alike : Node → Node → Prop
  | node {kind : String} {named : Bool} {field : Option String} {start stop : ℕ} {marks₁ marks₂ : Marks}
      {children₁ children₂ : List Node} (hc : Node.AllAlike children₁ children₂) :
      Node.Alike ⟨kind, named, field, start, stop, marks₁, children₁⟩
        ⟨kind, named, field, start, stop, marks₂, children₂⟩

inductive Node.AllAlike : List Node → List Node → Prop
  | nil : Node.AllAlike [] []
  | cons {n₁ n₂ : Node} {ns₁ ns₂ : List Node} (h : Node.Alike n₁ n₂) (hs : Node.AllAlike ns₁ ns₂) :
      Node.AllAlike (n₁ :: ns₁) (n₂ :: ns₂)

end

mutual

lemma Node.Alike.unmarked_eq {n₁ n₂ : Node} : n₁.Alike n₂ → n₁.unmarked = n₂.unmarked
  | .node hc => by rw [Node.unmarked, Node.unmarked, hc.unmarkedAll_eq]

lemma Node.AllAlike.unmarkedAll_eq {ns₁ ns₂ : List Node} :
    Node.AllAlike ns₁ ns₂ → Node.unmarkedAll ns₁ = Node.unmarkedAll ns₂
  | .nil => rfl
  | .cons h hs => by rw [Node.unmarkedAll, Node.unmarkedAll, h.unmarked_eq, hs.unmarkedAll_eq]

end

def SameKeys {κ α : Type} (R : α → α → Prop) : List (κ × α) → List (κ × α) → Prop :=
  List.Forall₂ fun x y => x.1 = y.1 ∧ R x.2 y.2

lemma SameKeys.find? {κ α : Type} [BEq κ] {R : α → α → Prop} {xs ys : List (κ × α)} (h : SameKeys R xs ys)
    (key : κ) :
    (∃ x y, (xs.find? (·.1 == key)).map (·.2) = some x ∧ (ys.find? (·.1 == key)).map (·.2) = some y ∧ R x y) ∨
      (xs.find? (·.1 == key)).map (·.2) = none ∧ (ys.find? (·.1 == key)).map (·.2) = none := by
  induction h with
  | nil => exact Or.inr ⟨rfl, rfl⟩
  | @cons x y xs ys hxy _ ih =>
    obtain ⟨hk, hr⟩ := hxy
    rw [List.find?_cons, List.find?_cons, ← hk]
    cases x.1 == key with
    | true => exact Or.inl ⟨x.2, y.2, rfl, rfl, hr⟩
    | false => exact ih

structure StoredFile.Alike (f₁ f₂ : StoredFile) : Prop where
  content : f₁.content = f₂.content
  trees : SameKeys Node.Alike f₁.trees f₂.trees

inductive Entry.Alike : Entry → Entry → Prop
  | file {f₁ f₂ : StoredFile} (h : f₁.Alike f₂) : Entry.Alike (.file f₁) (.file f₂)
  | directory : Entry.Alike .directory .directory

namespace Disk

def Alike (disk₁ disk₂ : Disk) : Prop := SameKeys Entry.Alike disk₁.entries disk₂.entries

variable {disk₁ disk₂ : Disk}

lemma Alike.entry_cases (h : disk₁.Alike disk₂) (l : Location) :
    (∃ e₁ e₂, disk₁.entry? l = some e₁ ∧ disk₂.entry? l = some e₂ ∧ e₁.Alike e₂) ∨
      disk₁.entry? l = none ∧ disk₂.entry? l = none := by
  unfold Disk.entry?
  split
  · exact Or.inl ⟨_, _, rfl, rfl, .directory⟩
  · exact h.find? l

def SameFound {α : Type} (R : α → α → Prop) (found₁ found₂ : Except ReadFailure α) : Prop :=
  (∃ x y, found₁ = .ok x ∧ found₂ = .ok y ∧ R x y) ∨ ∃ failure, found₁ = .error failure ∧ found₂ = .error failure

lemma sameFound_error {α : Type} {R : α → α → Prop} (failure : ReadFailure) :
    SameFound R (.error failure) (.error failure) :=
  Or.inr ⟨failure, rfl, rfl⟩

def AlikeAt (found₁ found₂ : Location × Entry) : Prop := found₁.1 = found₂.1 ∧ found₁.2.Alike found₂.2

lemma Alike.follow (h : disk₁.Alike disk₂) (pieces : List (List Char)) (here : Location) :
    SameFound AlikeAt (disk₁.follow here pieces) (disk₂.follow here pieces) := by
  induction pieces generalizing here with
  | nil =>
    rw [Disk.follow, Disk.follow]
    rcases h.entry_cases here with ⟨e₁, e₂, h₁, h₂, he⟩ | ⟨h₁, h₂⟩
    · rw [h₁, h₂]
      exact Or.inl ⟨(here, e₁), (here, e₂), rfl, rfl, rfl, he⟩
    · rw [h₁, h₂]
      exact sameFound_error _
  | cons piece pieces ih =>
    rw [Disk.follow, Disk.follow]
    rcases h.entry_cases here with ⟨e₁, e₂, h₁, h₂, he⟩ | ⟨h₁, h₂⟩
    · rw [h₁, h₂]
      cases he with
      | file => exact sameFound_error _
      | directory =>
        dsimp only
        split
        · exact ih here
        · split
          · exact ih _
          · exact sameFound_error _
        · exact ih _
    · rw [h₁, h₂]
      exact sameFound_error _

lemma Alike.find (h : disk₁.Alike disk₂) (p : Path) : SameFound AlikeAt (disk₁.find p) (disk₂.find p) := by
  unfold Disk.find
  split
  · exact sameFound_error _
  · split
    · exact sameFound_error _
    · exact h.follow _ _

lemma Alike.read (h : disk₁.Alike disk₂) (p : Path) :
    SameFound StoredFile.Alike (disk₁.read p) (disk₂.read p) := by
  rw [Disk.read, Disk.read]
  rcases h.find p with ⟨⟨l₁, e₁⟩, ⟨l₂, e₂⟩, h₁, h₂, -, he⟩ | ⟨failure, h₁, h₂⟩
  · rw [h₁, h₂]
    cases he with
    | @file f₁ f₂ hf => exact Or.inl ⟨f₁, f₂, rfl, rfl, hf⟩
    | directory => exact sameFound_error _
  · rw [h₁, h₂]
    exact sameFound_error _

lemma Alike.of_read {p : Path} {f₁ f₂ : StoredFile} (h : disk₁.Alike disk₂) (h₁ : disk₁.read p = .ok f₁)
    (h₂ : disk₂.read p = .ok f₂) : f₁.Alike f₂ := by
  rcases h.read p with ⟨g₁, g₂, hg₁, hg₂, hg⟩ | ⟨failure, hg₁, -⟩
  · obtain rfl := Except.ok.inj (h₁.symm.trans hg₁)
    obtain rfl := Except.ok.inj (h₂.symm.trans hg₂)
    exact hg
  · rw [h₁] at hg₁
    cases hg₁

lemma Alike.moduleIn?_eq (h : disk₁.Alike disk₂) (directory : List Path.Component) :
    moduleIn? disk₁ directory = moduleIn? disk₂ directory := by
  rw [moduleIn?, moduleIn?]
  rcases h.read (goModPath directory) with ⟨f₁, f₂, h₁, h₂, hf⟩ | ⟨failure, h₁, h₂⟩
  · rw [h₁, h₂]
    simp only [hf.content]
  · rw [h₁, h₂]

lemma Alike.findModule?_eq (h : disk₁.Alike disk₂) (directory : List Path.Component) :
    findModule? disk₁ directory = findModule? disk₂ directory := by
  have hm : moduleIn? disk₁ = moduleIn? disk₂ := funext h.moduleIn?_eq
  rw [findModule?, findModule?, hm]

lemma Alike.moduleFor (h : disk₁.Alike disk₂) (modules : GoModules) (file : Path) :
    modules.moduleFor disk₁ file = modules.moduleFor disk₂ file := by
  simp only [GoModules.moduleFor, h.findModule?_eq]

end Disk

lemma StoredFile.Alike.of_tree? {f₁ f₂ : StoredFile} {tree₁ tree₂ : Node} {grammar : Grammar}
    (h : f₁.Alike f₂) (h₁ : f₁.tree? grammar = some tree₁) (h₂ : f₂.tree? grammar = some tree₂) :
    tree₁.Alike tree₂ := by
  rcases h.trees.find? grammar with ⟨t₁, t₂, ht₁, ht₂, ht⟩ | ⟨ht₁, -⟩
  · obtain rfl := Option.some.inj (h₁.symm.trans ht₁)
    obtain rfl := Option.some.inj (h₂.symm.trans ht₂)
    exact ht
  · cases h₁.symm.trans ht₁

def Problem.locatedAt (problem : Problem) : Option (UInt32 × UInt32) → Problem
  | some (line, column) => problem.located line column
  | none => problem

def Extraction.judged (outline : Outline) (problem : Problem) (source : Bytes) (tree : Node) : Extraction :=
  if tree.hasErrors then .incomplete outline (problem.locatedAt (tree.firstError? source))
  else .complete outline

lemma syntaxProblem_eq_locatedAt (path : Path) (language : Language) (source : Bytes) (tree : Node) :
    syntaxProblem path language source tree =
      (Problem.parse path ("syntax error in " ++ language.name ++ " file")).locatedAt
        (tree.firstError? source) := by
  rw [syntaxProblem]
  cases tree.firstError? source <;> rfl

namespace SingleGrammar

variable {disk : Disk} {file : ScannedFile} {stored : StoredFile} {tree : Node}

def outlineOf (g : SingleGrammar) (moduleName : Option String) (file : ScannedFile) (source : Bytes) (tree : Node) :
    Outline :=
  let found := Pass.runAll (g.passes moduleName) ⟨file.path, g.language file, source, .ofRoot tree⟩
  ⟨file.path, g.language file, source, found.symbols, found.dependencies⟩

lemma ignoresMarks_passes (g : SingleGrammar) (moduleName : Option String) :
    ∀ pass ∈ g.passes moduleName, pass.IgnoresMarks := by
  cases g with
  | go => exact Go.ignoresMarks_passes moduleName
  | javaScript => exact JavaScript.ignoresMarks_passes
  | python => exact Python.ignoresMarks_passes
  | kotlin => exact Kotlin.ignoresMarks_passes
  | java => exact Java.ignoresMarks_passes
  | swift => exact Swift.ignoresMarks_passes
  | objC => exact ObjC.ignoresMarks_passes
  | cpp => exact Cpp.ignoresMarks_passes

lemma outlineOf_unmarked (g : SingleGrammar) (moduleName : Option String) (file : ScannedFile) (source : Bytes)
    (tree : Node) : g.outlineOf moduleName file source tree.unmarked = g.outlineOf moduleName file source tree := by
  have hfound := Pass.runAll_unmarked (g.ignoresMarks_passes moduleName)
    ⟨file.path, g.language file, source, .ofRoot tree⟩
  rw [outlineOf, outlineOf, ← hfound]
  rfl

lemma run_judged (g : SingleGrammar) (modules : GoModules) (hr : disk.read file.diskPath = .ok stored)
    (hs : stored.content ≠ []) (ht : stored.tree? (.ofFile (g.language file) file.path) = some tree) :
    (g.extractor.run disk modules file).1 = .returned
      (.judged (g.outlineOf (modules.moduleFor disk file.diskPath).1 file stored.content tree)
        (.parse file.path ("syntax error in " ++ (g.language file).name ++ " file")) stored.content tree) := by
  rw [g.run_extractor, Disk.extract, Disk.readThen, hr]
  dsimp only
  rw [Extraction.ofStored, if_neg (by simpa using hs), ht]
  dsimp only
  rw [syntaxProblem_eq_locatedAt]
  rfl

lemma run_empty (g : SingleGrammar) (modules : GoModules) (hr : disk.read file.diskPath = .ok stored)
    (hs : stored.content = []) :
    (g.extractor.run disk modules file).1 =
      .returned (.withoutTree file.path (g.language file) [] .emptyContent) := by
  rw [g.run_extractor, Disk.extract, Disk.readThen, hr]
  dsimp only
  rw [Extraction.ofStored, if_pos (by simpa using hs), hs]

lemma known_eq {disk₁ disk₂ : Disk} (g : SingleGrammar) (modules : GoModules) (file : ScannedFile)
    (h : disk₁.Alike disk₂) :
    (g.extractor.run disk₁ modules file).2 = (g.extractor.run disk₂ modules file).2 := by
  cases g with
  | go => simp only [extractor, Extractor.go, h.moduleFor]
  | _ => rfl

end SingleGrammar

/-- On disks that differ only in the marks of trees, an extractor makes the same outline of a file, with the same
symbols and dependencies. The marks decide whether a problem is reported with it, which the mark on the root tells,
and at which position. An empty file has no tree to look at. -/
theorem marks_decide_only_status_and_position (g : SingleGrammar) (disk₁ disk₂ : Disk) (modules : GoModules)
    (file : ScannedFile) (stored₁ stored₂ : StoredFile) (tree₁ tree₂ : Node) (hd : disk₁.Alike disk₂)
    (hr₁ : disk₁.read file.diskPath = .ok stored₁) (hr₂ : disk₂.read file.diskPath = .ok stored₂)
    (ht₁ : stored₁.tree? (.ofFile (g.language file) file.path) = some tree₁)
    (ht₂ : stored₂.tree? (.ofFile (g.language file) file.path) = some tree₂) :
    let run (disk : Disk) := g.extractor.run disk modules file
    (run disk₁).2 = (run disk₂).2 ∧ (stored₁.content = [] → (run disk₁).1 = (run disk₂).1) ∧
      (stored₁.content ≠ [] → ∃ outline problem,
        (run disk₁).1 = .returned (.judged outline problem stored₁.content tree₁) ∧
        (run disk₂).1 = .returned (.judged outline problem stored₁.content tree₂)) := by
  intro run
  have hf := hd.of_read hr₁ hr₂
  refine ⟨g.known_eq modules file hd, fun hs => ?_, fun hs => ?_⟩
  · have hrun₁ := g.run_empty modules hr₁ hs
    have hrun₂ := g.run_empty modules hr₂ (hf.content ▸ hs)
    exact hrun₁.trans hrun₂.symm
  · have htrees := (hf.of_tree? ht₁ ht₂).unmarked_eq
    have hrun₁ := g.run_judged modules hr₁ hs ht₁
    have hrun₂ := g.run_judged modules hr₂ (hf.content ▸ hs) ht₂
    rw [← g.outlineOf_unmarked] at hrun₁ hrun₂
    rw [← hf.content, ← htrees, ← hd.moduleFor modules file.diskPath] at hrun₂
    exact ⟨_, _, hrun₁, hrun₂⟩

/-- One of the trees is marked as broken in the body of the function, by something that the tree does not show. -/
theorem invisible_breakage_leaves_function_in_outline :
    let node (kind : String) (field : Option String) (start stop : ℕ) (marks : Marks) (children : List Node) :
        Node := ⟨kind, true, field, start, stop, marks, children⟩
    let tree (broken : Bool) : Node :=
      node "module" none 0 14 { hasError := broken }
        [node "function_definition" none 0 13 { hasError := broken }
          [node "identifier" (some "name") 4 5 {} [], node "parameters" (some "parameters") 5 7 {} [],
            node "block" (some "body") 9 13 { hasError := broken } []]]
    let stored (broken : Bool) : StoredFile :=
      ⟨"def f(): pass\n".toUTF8.data.toList, [(.python, tree broken)]⟩
    let disk (broken : Bool) : Disk := ⟨[([.normal "a.py"], .file (stored broken))]⟩
    let file : ScannedFile := ⟨⟨"a.py"⟩, ⟨"a.py"⟩, "python"⟩
    ∃ (outline : Outline) (problem : Problem),
      (Extractor.python.run (disk false) {} file).1 = .returned (.complete outline) ∧
      (Extractor.python.run (disk true) {} file).1 = .returned (.incomplete outline (problem.located 1 10)) ∧
      outline.symbols.map (·.name) = ["f"] := by
  intro node tree stored disk file
  have htree : (tree false).Alike (tree true) :=
    .node (.cons (.node (.cons (.node .nil) (.cons (.node .nil) (.cons (.node .nil) .nil)))) .nil)
  have hdisk : (disk false).Alike (disk true) := .cons ⟨rfl, .file ⟨rfl, .cons ⟨rfl, htree⟩ .nil⟩⟩ .nil
  have hread (broken : Bool) : (disk broken).read ⟨"a.py"⟩ = .ok (stored broken) := rfl
  obtain ⟨-, -, hrun⟩ := marks_decide_only_status_and_position .python (disk false) (disk true) {} file
    (stored false) (stored true) (tree false) (tree true) hdisk (hread false) (hread true) rfl rfl
  obtain ⟨outline, problem, h₁, h₂⟩ := hrun (by decide +kernel)
  have hposition : (tree true).firstError? (stored false).content = some (1, 10) := by decide +kernel
  have herrors : (tree true).hasErrors = true := rfl
  rw [Extraction.judged, if_pos herrors, hposition] at h₂
  have hnames : ((disk false).extract file .python Python.passes).outline?.map
      (fun outline => outline.symbols.map (·.name)) = some ["f"] := by decide +kernel
  have hextract : (disk false).extract file .python Python.passes = .complete outline := Attempt.returned.inj h₁
  rw [hextract] at hnames
  exact ⟨outline, problem, h₁, h₂, Option.some.inj hnames⟩

end SourceAtlas
