import SourceAtlas.Proofs.Extraction.Readers
import SourceAtlas.Proofs.List.Search

namespace SourceAtlas

structure Extraction.Reports (e : Extraction) (file : ScannedFile) (language : Language)
    (grammars : List Grammar) (stored : StoredFile) : Prop where
  outline : ∃ outline, e.outline? = some outline ∧ outline.path = file.path ∧ outline.language = language ∧
    outline.content = stored.content
  problem_iff : e.problem?.isSome ↔
    stored.content = [] ∨ ∀ g ∈ grammars, ∃ tree, stored.tree? g = some tree ∧ tree.hasErrors = true
  problem : ∀ problem, e.problem? = some problem → problem.path = file.path ∧ problem.kind = .parse ∧
    (problem.line.isSome ↔ stored.content ≠ []) ∧ (problem.column.isSome ↔ stored.content ≠ [])

structure Extraction.Answers (e : Extraction) (disk : Disk) (file : ScannedFile) (language : Language) : Prop where
  failed_iff : (∃ problem, e = .failed problem) ↔ ∃ failure, disk.read file.diskPath = .error failure
  failed : ∀ problem, e = .failed problem → problem.path = file.path ∧ problem.kind = .filesystem
  read : ∀ stored, disk.read file.diskPath = .ok stored →
    e.Reports file language (language.grammars file.path) stored

/-- The grammars of the file's language make trees of all that is not empty. -/
def Disk.Parses (disk : Disk) (file : ScannedFile) : Prop :=
  ∀ stored, disk.read file.diskPath = .ok stored → stored.content ≠ [] →
    ∀ language, Language.ofTag? file.tag = some language →
      ∀ g ∈ language.grammars file.path, ∃ tree, stored.tree? g = some tree

section

variable {disk : Disk} {file : ScannedFile} {language : Language} {stored : StoredFile}

lemma Node.exists_firstError? {tree : Node} (h : tree.hasErrors = true) (source : Bytes) :
    ∃ line column, tree.firstError? source = some (line, column) := by
  have hb : ∃ m, tree.blamed? = some m := by
    obtain ⟨kind, named, field, start, stop, marks, children⟩ := tree
    rw [hasErrors] at h
    rw [blamed?]
    split
    · exact ⟨_, rfl⟩
    · cases firstBlamed? children with
      | none => exact ⟨_, rfl⟩
      | some m => exact ⟨m, rfl⟩
  obtain ⟨m, hm⟩ := hb
  rw [firstError?, hm]
  exact ⟨_, _, rfl⟩

lemma syntaxProblem_eq {tree : Node} (h : tree.hasErrors = true) (path : Path) (language : Language)
    (source : Bytes) : ∃ message line column,
      syntaxProblem path language source tree = (Problem.parse path message).located line column := by
  obtain ⟨line, column, he⟩ := tree.exists_firstError? h source
  rw [syntaxProblem, he]
  exact ⟨_, line, column, rfl⟩

namespace Extraction

lemma reports_withoutTree (hs : stored.content = []) (grammars : List Grammar) (why : ParseFailure) :
    (withoutTree file.path language stored.content why).Reports file language grammars stored where
  outline := ⟨_, rfl, rfl, rfl, rfl⟩
  problem_iff := iff_of_true rfl (.inl hs)
  problem := by
    rintro problem ⟨⟩
    simp [Problem.parse, hs]

lemma reports_ofStored {grammar : Grammar} (passes : List Pass)
    (hp : stored.content ≠ [] → ∃ tree, stored.tree? grammar = some tree) :
    (ofStored file language grammar passes stored).Reports file language [grammar] stored := by
  rw [ofStored]
  by_cases hs : stored.content = []
  · rw [if_pos (by simpa using hs)]
    exact reports_withoutTree hs _ _
  obtain ⟨tree, ht⟩ := hp hs
  rw [if_neg (by simpa using hs), ht]
  dsimp only
  by_cases he : tree.hasErrors = true
  · obtain ⟨message, line, column, hm⟩ := syntaxProblem_eq he file.path language stored.content
    rw [if_pos he, hm]
    refine ⟨⟨_, rfl, rfl, rfl, rfl⟩, iff_of_true rfl (.inr ?_), ?_⟩
    · intro g hg
      obtain rfl := List.mem_singleton.mp hg
      exact ⟨tree, ht, he⟩
    · rintro problem ⟨⟩
      simp [Problem.parse, Problem.located, hs]
  · rw [if_neg he]
    refine ⟨⟨_, rfl, rfl, rfl, rfl⟩, iff_of_false Bool.false_ne_true ?_, by rintro problem ⟨⟩⟩
    rintro (hc | hg)
    · exact hs hc
    · obtain ⟨other, ho, hoe⟩ := hg grammar (List.mem_singleton_self grammar)
      obtain rfl := Option.some.inj (ht.symm.trans ho)
      exact he hoe

variable {first second : Extraction} {P : Outline → Prop}

lemma exists_outline_combine (hm : ∀ cpp objc, P cpp → P objc → P (ObjCpp.merge cpp objc))
    (h₁ : ∃ outline, first.outline? = some outline ∧ P outline)
    (h₂ : ∃ outline, second.outline? = some outline ∧ P outline) :
    ∃ outline, (ObjCpp.combine first second).outline? = some outline ∧ P outline := by
  obtain ⟨cpp, hc, hcpp⟩ := h₁
  obtain ⟨objc, ho, hobjc⟩ := h₂
  cases first with
  | failed problem => cases hc
  | complete cpp' =>
    cases hc
    cases second with
    | failed problem => cases ho
    | complete objc' => cases ho; exact ⟨_, rfl, hm _ _ hcpp hobjc⟩
    | incomplete objc' problem => exact ⟨_, rfl, hcpp⟩
  | incomplete cpp' problem =>
    cases hc
    cases second with
    | failed problem => cases ho
    | complete objc' => cases ho; exact ⟨_, rfl, hobjc⟩
    | incomplete objc' other => cases ho; exact ⟨_, rfl, hm _ _ hcpp hobjc⟩

lemma problem?_combine {cpp objc : Outline} (h₁ : first.outline? = some cpp) (h₂ : second.outline? = some objc) :
    (ObjCpp.combine first second).problem? = second.problem?.bind fun _ => first.problem? := by
  cases first with
  | failed problem => cases h₁
  | complete cpp' => cases second <;> rfl
  | incomplete cpp' problem =>
    cases second with
    | failed other => cases h₂
    | _ => rfl

lemma Reports.combine {grammars others : List Grammar} (h₁ : first.Reports file .objCpp grammars stored)
    (h₂ : second.Reports file .objCpp others stored) :
    (ObjCpp.combine first second).Reports file .objCpp (grammars ++ others) stored := by
  obtain ⟨cpp, hc, -⟩ := h₁.outline
  obtain ⟨objc, ho, -⟩ := h₂.outline
  have hp := problem?_combine hc ho
  refine ⟨exists_outline_combine ?_ h₁.outline h₂.outline, ?_, fun problem hproblem => ?_⟩
  · rintro cpp objc ⟨hpath, -, hcontent⟩ -
    exact ⟨hpath, rfl, hcontent⟩
  · have hboth : (ObjCpp.combine first second).problem?.isSome ↔
        first.problem?.isSome ∧ second.problem?.isSome := by
      rw [hp]
      cases first.problem? <;> cases second.problem? <;> simp
    rw [hboth, h₁.problem_iff, h₂.problem_iff, ← or_and_left, List.forall_mem_append]
  · rw [hp] at hproblem
    obtain ⟨_, -, hfirst⟩ := Option.bind_eq_some_iff.mp hproblem
    exact h₁.problem problem hfirst

lemma answers_readThen {next : StoredFile → Extraction}
    (h : ∀ stored, disk.read file.diskPath = .ok stored →
      (next stored).Reports file language (language.grammars file.path) stored) :
    (disk.readThen file next).Answers disk file language := by
  rw [Disk.readThen]
  cases hr : disk.read file.diskPath with
  | error failure =>
    dsimp only
    refine ⟨iff_of_true ⟨_, rfl⟩ ⟨failure, hr⟩, ?_, fun stored hs => ?_⟩
    · rintro problem ⟨⟩
      exact ⟨rfl, rfl⟩
    · cases hr.symm.trans hs
  | ok stored =>
    dsimp only
    have hreports := h stored hr
    obtain ⟨outline, ho, -⟩ := hreports.outline
    have hne (problem : Problem) : next stored ≠ .failed problem := by
      intro he
      rw [he] at ho
      cases ho
    refine ⟨iff_of_false ?_ ?_, fun problem he => absurd he (hne problem), ?_⟩
    · rintro ⟨problem, he⟩
      exact hne problem he
    · rintro ⟨failure, hf⟩
      cases hr.symm.trans hf
    · intro other hs
      cases hr.symm.trans hs
      exact hreports

end Extraction

end

namespace Reader

variable {disk : Disk} {file : ScannedFile}

lemma answers_extraction (reader : Reader) (left : Pass → Pass) (moduleName : Option String)
    (hp : ∀ stored, disk.read file.diskPath = .ok stored → stored.content ≠ [] →
      ∀ g ∈ reader.grammars file, ∃ tree, stored.tree? g = some tree) :
    (reader.extraction left moduleName disk file).Answers disk file (reader.language file) := by
  cases reader with
  | single g =>
    rw [grammars_single] at hp
    refine Extraction.answers_readThen fun stored hr => ?_
    have hg := g.language_ne_objCpp file
    rw [language, Language.grammars, if_neg hg]
    exact Extraction.reports_ofStored _ fun hs => hp stored hr hs _ (List.mem_singleton_self _)
  | objCpp =>
    refine Extraction.answers_readThen fun stored hr => ?_
    have hcpp : (.cpp : Grammar) ∈ objCpp.grammars file := List.mem_cons_self
    have hobjc : (.objC : Grammar) ∈ objCpp.grammars file := List.mem_cons_of_mem _ List.mem_cons_self
    exact (Extraction.reports_ofStored _ fun hs => hp stored hr hs _ hcpp).combine
      (Extraction.reports_ofStored _ fun hs => hp stored hr hs _ hobjc)

end Reader

namespace Registry

variable {registry : Registry} {file : ScannedFile}

lemma extractorFor?_eq_some_iff {language : Language} {e : Extractor} :
    registry.extractorFor? language = some e ↔
      LastWith (fun e => language ∈ e.languages) registry.extractors e := by
  rw [extractorFor?_eq_find?, lastWith_iff_firstWith_reverse, firstWith_iff_find?]
  simp

lemma extractorFor?_eq_none_iff {language : Language} :
    registry.extractorFor? language = none ↔ ∀ e ∈ registry.extractors, language ∉ e.languages := by
  simp [extractorFor?_eq_find?]

lemma route?_eq_none (h : ∀ language, Language.ofTag? file.tag = some language →
    ∀ e ∈ registry.extractors, language ∉ e.languages) : registry.route? file = none := by
  rw [route?, Option.bind_eq_none_iff]
  exact fun language hl => extractorFor?_eq_none_iff.mpr (h language hl)

lemma exists_route? {language : Language} (ht : Language.ofTag? file.tag = some language)
    (hc : ∃ e ∈ registry.extractors, language ∈ e.languages) :
    ∃ e, registry.route? file = some e ∧ LastWith (fun e => language ∈ e.languages) registry.extractors e := by
  rw [route?, ht, Option.bind_some]
  cases he : registry.extractorFor? language with
  | some e => exact ⟨e, rfl, extractorFor?_eq_some_iff.mp he⟩
  | none =>
    obtain ⟨e, hm, hl⟩ := hc
    exact absurd hl (extractorFor?_eq_none_iff.mp he e hm)

/-- A file of a language that nobody claims is refused. Any other goes to the last extractor that claims its
language, and what is said about it is right whatever is left of the passes. -/
theorem last_claiming_extractor_answers (registry : Registry) (disk : Disk) (modules : GoModules)
    (file : ScannedFile) (hr : ∀ e ∈ registry.extractors, e ∈ Extractor.all) (hp : disk.Parses file) :
    ((∀ language, Language.ofTag? file.tag = some language → ∀ e ∈ registry.extractors, language ∉ e.languages) →
      ∃ problem, registry.extract disk modules file = (.returned (.failed problem), modules) ∧
        problem.path = file.path ∧ problem.kind = .unsupportedLanguage) ∧
    ∀ language, Language.ofTag? file.tag = some language → (∃ e ∈ registry.extractors, language ∈ e.languages) →
      ∃ reader : Reader, LastWith (fun e => language ∈ e.languages) registry.extractors reader.extractor ∧
        registry.extract disk modules file = reader.extractor.run disk modules file ∧
        let moduleName := (modules.moduleFor disk file.diskPath).1
        (registry.extract disk modules file).1 = .returned (reader.extraction id moduleName disk file) ∧
          ∀ left, (reader.extraction left moduleName disk file).Answers disk file language := by
  refine ⟨fun hn => ?_, fun language ht hc => ?_⟩
  · rw [extract, route?_eq_none hn]
    exact ⟨_, rfl, rfl, rfl⟩
  · obtain ⟨e, he, hlast⟩ := exists_route? ht hc
    obtain ⟨reader, rfl⟩ := Reader.exists_extractor_eq (hr e hlast.mem)
    have hlanguage := Reader.language_eq ht hlast.holds
    have hrun : registry.extract disk modules file = reader.extractor.run disk modules file := by
      rw [extract, he]
    refine ⟨reader, hlast, hrun, ?_, fun left => ?_⟩
    · rw [hrun]
      exact reader.run_extractor disk modules file
    · rw [← hlanguage]
      refine reader.answers_extraction left _ fun stored hs hne => ?_
      rw [Reader.grammars, hlanguage]
      exact hp stored hs hne language ht

/-- One grammar that accepts an Objective-C++ file is enough; if both reject it, the problem has a line. -/
theorem objCpp_problem_needs_both_grammars :
    let tree (broken : Bool) : Node := ⟨"translation_unit", true, none, 0, 2, ⟨false, false, broken⟩, []⟩
    let half : StoredFile := ⟨[64, 59], [(.cpp, tree true), (.objC, tree false)]⟩
    let broken : StoredFile := ⟨[64, 64], [(.cpp, tree true), (.objC, tree true)]⟩
    let disk : Disk := ⟨[([.normal "a.mm"], .file half), ([.normal "b.mm"], .file broken)]⟩
    let registry : Registry := ⟨[.objCpp, .cpp, .objCpp, .objC, .cpp]⟩
    let file (name : String) : ScannedFile := ⟨⟨name⟩, ⟨name⟩, " Objective-C++"⟩
    (∃ extraction, (registry.extract disk {} (file "a.mm")).1 = .returned extraction ∧
      extraction.problem? = none ∧ extraction.Answers disk (file "a.mm") .objCpp) ∧
    ∃ extraction problem, (registry.extract disk {} (file "b.mm")).1 = .returned extraction ∧
      extraction.problem? = some problem ∧ problem.kind = .parse ∧ problem.line.isSome := by
  intro tree half broken disk registry file
  have hr : ∀ e ∈ registry.extractors, e ∈ Extractor.all := by simp [registry, Extractor.all]
  have ht : Language.ofTag? " Objective-C++" = some .objCpp := by decide +kernel
  have hc : ∃ e ∈ registry.extractors, .objCpp ∈ e.languages := ⟨.objCpp, by simp [registry], by decide⟩
  have parses {name : String} {stored : StoredFile} (hs : disk.read ⟨name⟩ = .ok stored)
      (htrees : ∀ g ∈ [Grammar.cpp, .objC], ∃ tree, stored.tree? g = some tree) : disk.Parses (file name) := by
    intro other ho _ language hl g hg
    obtain rfl := Except.ok.inj (hs.symm.trans ho)
    obtain rfl := Option.some.inj (ht.symm.trans hl)
    exact htrees g hg
  have hhalf : disk.read ⟨"a.mm"⟩ = .ok half := rfl
  have hbroken : disk.read ⟨"b.mm"⟩ = .ok broken := rfl
  have phalf := parses hhalf (by simp [half, StoredFile.tree?])
  have pbroken := parses hbroken (by simp [broken, StoredFile.tree?])
  refine ⟨?_, ?_⟩
  · obtain ⟨reader, -, -, hrun, ha⟩ :=
      (last_claiming_extractor_answers registry disk {} (file "a.mm") hr phalf).2 _ ht hc
    refine ⟨_, hrun, ?_, ha id⟩
    have hiff := ((ha id).read half hhalf).problem_iff
    rw [← Option.not_isSome_iff_eq_none, hiff]
    rintro (he | hall)
    · cases he
    · obtain ⟨other, ho, hbad⟩ := hall .objC (by decide)
      obtain rfl := Option.some.inj ho
      cases hbad
  · obtain ⟨reader, -, -, hrun, ha⟩ :=
      (last_claiming_extractor_answers registry disk {} (file "b.mm") hr pbroken).2 _ ht hc
    have hreports := (ha id).read broken hbroken
    have hall : ∀ g ∈ [Grammar.cpp, .objC], ∃ tree, broken.tree? g = some tree ∧ tree.hasErrors = true := by
      simp [broken, StoredFile.tree?, tree, Node.hasErrors]
    have hsome := hreports.problem_iff.mpr (.inr hall)
    obtain ⟨problem, hproblem⟩ := Option.isSome_iff_exists.mp hsome
    obtain ⟨-, hkind, hline, -⟩ := hreports.problem problem hproblem
    exact ⟨_, problem, hrun, hproblem, hkind, hline.mpr (by decide)⟩

end Registry

end SourceAtlas
