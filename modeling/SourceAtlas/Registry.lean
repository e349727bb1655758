import SourceAtlas.Extract.Cpp
import SourceAtlas.Extract.Go
import SourceAtlas.Extract.Java
import SourceAtlas.Extract.JavaScript
import SourceAtlas.Extract.Kotlin
import SourceAtlas.Extract.Merge
import SourceAtlas.Extract.ObjC
import SourceAtlas.Extract.Python
import SourceAtlas.Extract.Swift
import SourceAtlas.Import.GoModules
import SourceAtlas.Table

/-! A registry sends a file to the extractor of its language; of several extractors for one language, the last gets
it. -/

namespace SourceAtlas

inductive Attempt where
  | returned (extraction : Extraction)
  | crashed (reason : Option String)

structure Extractor where
  languages : List Language
  run : Disk → GoModules → ScannedFile → Attempt × GoModules

namespace Extractor

def simple (languages : List Language) (run : Disk → ScannedFile → Extraction) : Extractor where
  languages
  run disk modules file := (.returned (run disk file), modules)

def go : Extractor where
  languages := [.go]
  run disk modules file :=
    let (moduleName, modules) := modules.moduleFor disk file.diskPath
    (.returned (disk.extract file .go (Go.passes moduleName)), modules)

def javaScript : Extractor := simple [.javaScript, .typeScript] fun disk file =>
  disk.extract file (file.languageAmong [.javaScript, .typeScript] .javaScript) JavaScript.passes

def python : Extractor := simple [.python] fun disk file => disk.extract file .python Python.passes

def kotlin : Extractor := simple [.kotlin] fun disk file => disk.extract file .kotlin Kotlin.passes

def java : Extractor := simple [.java] fun disk file => disk.extract file .java Java.passes

def swift : Extractor := simple [.swift] fun disk file => disk.extract file .swift Swift.passes

def objC : Extractor := simple [.objC] fun disk file => disk.extract file .objC ObjC.passes

def objCpp : Extractor := simple [.objCpp] fun disk file =>
  disk.readThen file fun stored =>
    ObjCpp.combine (.ofStored file .objCpp .cpp Cpp.passes stored)
      (.ofStored file .objCpp .objC ObjC.passes stored)

def cpp : Extractor := simple [.c, .cpp] fun disk file =>
  disk.extract file (file.languageAmong [.c, .cpp] .cpp) Cpp.passes

def all : List Extractor := [go, javaScript, python, kotlin, java, swift, objC, objCpp, cpp]

end Extractor

structure Registry where
  extractors : List Extractor

namespace Registry

def full : Registry := ⟨Extractor.all⟩

def routes (r : Registry) : Table Language Nat := .numbering (·.languages) r.extractors

def extractorFor? (r : Registry) (language : Language) : Option Extractor :=
  (r.routes.get? language).bind (r.extractors[·]?)

theorem extractorFor?_eq_find? (r : Registry) (language : Language) :
    r.extractorFor? language = r.extractors.reverse.find? (·.languages.contains language) :=
  Table.get?_numbering_bind _ _ _

def languages (r : Registry) : List Language :=
  Language.all.filter fun language => (r.routes.get? language).isSome

def route? (r : Registry) (file : ScannedFile) : Option Extractor :=
  (Language.ofTag? file.tag).bind r.extractorFor?

def extract (r : Registry) (disk : Disk) (modules : GoModules) (file : ScannedFile) : Attempt × GoModules :=
  match r.route? file with
  | some extractor => extractor.run disk modules file
  | none => (.returned (.failed (.unsupportedLanguage file.path file.tag)), modules)

def describe (r : Registry) : String :=
  "ExtractorSet \x7b languages: [" ++ String.intercalate ", " (r.languages.map (·.title)) ++ "] \x7d"

end Registry

end SourceAtlas
