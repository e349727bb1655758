import Mathlib.Data.List.Forall2
import SourceAtlas.Proofs.List.Search
import SourceAtlas.Proofs.Pairing.Permutation

namespace SourceAtlas

namespace Pairing

variable {disk : Disk} {scanned : List ScannedFile} {files : List Outline} {file header : Outline} {p a c : Path}

def FoundAt (scanned : List ScannedFile) (p a : Path) : Prop :=
  ∃ s, LastWith (fun t => t.path.components = p.components) scanned s ∧ s.diskPath = a

/-- The header beside a file: of the paths on its other side the first with a file on the disk, and of the files
of the batch the last that is there. -/
structure HeaderBeside (disk : Disk) (scanned : List ScannedFile) (files : List Outline)
    (file header : Outline) : Prop where
  language : file.language ∈ [Language.c, .cpp, .objC, .objCpp]
  implementation : file.path.isHeader = false
  beside : ∃ a c, FoundAt scanned file.path a ∧ FirstWith (disk.isFile · = true) a.pairCandidates c ∧
    LastWith (fun f => ∃ b, FoundAt scanned f.path b ∧ b.components = c.components) files header

lemma foundAt_iff : FoundAt scanned p a ↔ diskPath? scanned p = some a := by
  have hlast (s : ScannedFile) : LastWith (fun t => t.path.components = p.components) scanned s ↔
      scanned.reverse.find? (·.path.same p) = some s := by
    rw [lastWith_iff_firstWith_reverse]
    exact firstWith_iff_find? fun t => Path.same_iff
  rw [diskPath?_eq_find?, Option.map_eq_some_iff]
  exact exists_congr fun s => and_congr_left fun _ => hlast s

lemma fileAt?_eq_some_iff :
    fileAt? files scanned c = some header ↔
      LastWith (fun f => ∃ b, FoundAt scanned f.path b ∧ b.components = c.components) files header := by
  rw [lastWith_iff_firstWith_reverse, fileAt?_eq_find?]
  refine (firstWith_iff_find? fun f => ?_).symm
  simp only [foundAt_iff, ← Path.same_iff]
  cases diskPath? scanned f.path <;> simp

lemma pairedFile?_eq_some_iff :
    disk.pairedFile? a = some c ↔ FirstWith (disk.isFile · = true) a.pairCandidates c :=
  (firstWith_iff_find? fun _ => Iff.rfl).symm

lemma isPaired_iff (language : Language) :
    language.isPaired = true ↔ language ∈ [Language.c, .cpp, .objC, .objCpp] := by
  cases language <;> decide

lemma headerOf?_eq_some_iff :
    headerOf? disk files scanned file = some header ↔ HeaderBeside disk scanned files file header := by
  have hsearch : ((diskPath? scanned file.path).bind disk.pairedFile?).bind (fileAt? files scanned) = some header ↔
      ∃ a c, FoundAt scanned file.path a ∧ FirstWith (disk.isFile · = true) a.pairCandidates c ∧
        LastWith (fun f => ∃ b, FoundAt scanned f.path b ∧ b.components = c.components) files header := by
    simp only [Option.bind_eq_some_iff, foundAt_iff, pairedFile?_eq_some_iff, fileAt?_eq_some_iff]
    constructor
    · rintro ⟨c, ⟨a, ha, hc⟩, hl⟩
      exact ⟨a, c, ha, hc, hl⟩
    · rintro ⟨a, c, ha, hc, hl⟩
      exact ⟨c, ⟨a, ha, hc⟩, hl⟩
  rw [headerOf?]
  by_cases hl : file.language.isPaired = true
  · by_cases hh : file.path.isHeader = true
    · rw [if_pos (by simp [hh])]
      exact iff_of_false (by simp) fun h => absurd hh (by simp [h.implementation])
    · rw [if_neg (by simp [hl, hh]), hsearch]
      have hl := (isPaired_iff _).mp hl
      exact ⟨fun h => ⟨hl, by simpa using hh, h⟩, fun h => h.beside⟩
  · rw [if_pos (by simp [hl])]
    exact iff_of_false (by simp) fun h => hl ((isPaired_iff _).mpr h.language)

inductive Gains (disk : Disk) (scanned : List ScannedFile) (files : List Outline) (file : Outline) :
    List Dependency → Prop
  | linked {header : Outline} (h : HeaderBeside disk scanned files file header) :
      Gains disk scanned files file (link header file)
  | alone (h : ∀ header, ¬ HeaderBeside disk scanned files file header) : Gains disk scanned files file []

lemma gains_gained (disk : Disk) (scanned : List ScannedFile) (files : List Outline) (file : Outline) :
    Gains disk scanned files file (gained disk files scanned file) := by
  unfold gained
  split
  · rename_i header hh
    exact .linked (headerOf?_eq_some_iff.mp hh)
  · rename_i hn
    refine .alone fun header hb => ?_
    rw [headerOf?_eq_some_iff.mpr hb] at hn
    cases hn

lemma Gains.eq_nil_of_isHeader {links : List Dependency} (h : Gains disk scanned files file links)
    (hh : file.path.isHeader = true) : links = [] := by
  cases h with
  | linked hb =>
    rw [hb.implementation] at hh
    cases hh
  | alone => rfl

/-- Each file of a batch stays as it is but for the edges that are appended to its own: the links to the header
beside it, taken between the files of the batch as they were. Headers gain none. -/
theorem resolve_appends_links_to_headers (disk : Disk) (scanned : List ScannedFile) (files : List Outline) :
    List.Forall₂
      (fun file resolved => ∃ links, Gains disk scanned files file links ∧
        resolved = { file with dependencies := file.dependencies ++ links } ∧
        (file.path.isHeader = true → links = []))
      files (resolve disk scanned files) := by
  rw [resolve_eq_map, List.forall₂_map_right_iff]
  apply List.forall₂_same.mpr
  intro file _
  have hg := gains_gained disk scanned files file
  exact ⟨_, hg, rfl, hg.eq_nil_of_isHeader⟩

-- One header is shared by the files before and after it; its own edges stay as they are.
example :
    let names := ["a.c", "a.h", "a.cpp"]
    let disk : Disk := ⟨names.map fun name => ([.normal name], .file ⟨[], []⟩)⟩
    let scanned := names.map fun name => ScannedFile.mk ⟨name⟩ ⟨name⟩ ""
    let definition : Symbol := ⟨"f", .function, "int f(int n)", {}, "", []⟩
    let files : List Outline :=
      [⟨⟨"a.c"⟩, .c, [], [definition], []⟩,
        ⟨⟨"a.h"⟩, .c, [], [{ definition with kind := .functionDeclaration }], [.ofImport "b.h" false]⟩,
        ⟨⟨"a.cpp"⟩, .cpp, [], [definition], [.ofImport "a.h" false]⟩]
    (resolve disk scanned files).map (fun f => f.dependencies.map (·.target)) =
      [["f", "a.h"], ["b.h"], ["a.h", "f", "a.h"]] := by decide +kernel

end Pairing

end SourceAtlas
