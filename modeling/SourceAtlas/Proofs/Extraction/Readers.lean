import SourceAtlas.Proofs.Calls.Attribution

namespace SourceAtlas

def Language.grammars (path : Path) (language : Language) : List Grammar :=
  if language = .objCpp then [.cpp, .objC] else [.ofFile language path]

namespace ScannedFile

variable {file : ScannedFile} {supported : List Language} {default language : Language}

lemma languageAmong_eq (ht : Language.ofTag? file.tag = some language) (hs : language ∈ supported) :
    file.languageAmong supported default = language := by
  rw [languageAmong, ht, Option.filter_some, if_pos (by simpa using hs), Option.getD_some]

lemma languageAmong_mem (hd : default ∈ supported) : file.languageAmong supported default ∈ supported := by
  rw [languageAmong]
  cases hf : (Language.ofTag? file.tag).filter supported.contains with
  | none => exact hd
  | some language => simpa using (Option.filter_eq_some_iff.mp hf).2

end ScannedFile

lemma SingleGrammar.language_ne_objCpp (g : SingleGrammar) (file : ScannedFile) : g.language file ≠ .objCpp := by
  intro he
  cases g with
  | javaScript =>
    have hm : Language.objCpp ∈ [Language.javaScript, .typeScript] :=
      he ▸ ScannedFile.languageAmong_mem List.mem_cons_self
    exact absurd hm (by decide)
  | cpp =>
    have hm : Language.objCpp ∈ [Language.c, .cpp] := he ▸ ScannedFile.languageAmong_mem (by decide)
    exact absurd hm (by decide)
  | _ => cases he

inductive Reader where
  | single (g : SingleGrammar)
  | objCpp

namespace Reader

def extractor : Reader → Extractor
  | .single g => g.extractor
  | .objCpp => .objCpp

def language (file : ScannedFile) : Reader → Language
  | .single g => g.language file
  | .objCpp => .objCpp

def grammars (file : ScannedFile) (reader : Reader) : List Grammar := (reader.language file).grammars file.path

/-- What comes of a file if `left` is what is left of each pass: a pass that fails adds only what it found until
then. -/
def extraction (left : Pass → Pass) (moduleName : Option String) (disk : Disk) (file : ScannedFile) :
    Reader → Extraction
  | .single g => disk.extract file (g.language file) ((g.passes moduleName).map left)
  | .objCpp => disk.readThen file fun stored =>
      ObjCpp.combine (.ofStored file .objCpp .cpp (Cpp.passes.map left) stored)
        (.ofStored file .objCpp .objC (ObjC.passes.map left) stored)

lemma run_extractor (reader : Reader) (disk : Disk) (modules : GoModules) (file : ScannedFile) :
    (reader.extractor.run disk modules file).1 =
      .returned (reader.extraction id (modules.moduleFor disk file.diskPath).1 disk file) := by
  cases reader with
  | single g =>
    rw [extraction, List.map_id]
    exact g.run_extractor disk modules file
  | objCpp =>
    rw [extraction, List.map_id, List.map_id]
    rfl

lemma exists_extractor_eq {e : Extractor} (he : e ∈ Extractor.all) : ∃ reader : Reader, reader.extractor = e := by
  simp only [Extractor.all, List.mem_cons, List.not_mem_nil, or_false] at he
  rcases he with rfl | rfl | rfl | rfl | rfl | rfl | rfl | rfl | rfl
  · exact ⟨.single .go, rfl⟩
  · exact ⟨.single .javaScript, rfl⟩
  · exact ⟨.single .python, rfl⟩
  · exact ⟨.single .kotlin, rfl⟩
  · exact ⟨.single .java, rfl⟩
  · exact ⟨.single .swift, rfl⟩
  · exact ⟨.single .objC, rfl⟩
  · exact ⟨.objCpp, rfl⟩
  · exact ⟨.single .cpp, rfl⟩

lemma language_eq {reader : Reader} {file : ScannedFile} {l : Language} (ht : Language.ofTag? file.tag = some l)
    (hl : l ∈ reader.extractor.languages) : reader.language file = l := by
  cases reader with
  | objCpp => exact (List.mem_singleton.mp hl).symm
  | single g =>
    cases g with
    | javaScript =>
      have hm : l ∈ [Language.javaScript, .typeScript] := hl
      rw [language, SingleGrammar.language, ScannedFile.languageAmong_eq ht hm]
    | cpp =>
      have hm : l ∈ [Language.c, .cpp] := hl
      rw [language, SingleGrammar.language, ScannedFile.languageAmong_eq ht hm]
    | _ => exact (List.mem_singleton.mp hl).symm

lemma grammars_single (g : SingleGrammar) (file : ScannedFile) :
    (single g).grammars file = [.ofFile (g.language file) file.path] :=
  if_neg (g.language_ne_objCpp file)

end Reader

end SourceAtlas
