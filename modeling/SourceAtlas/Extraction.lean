import SourceAtlas.Disk
import SourceAtlas.Extract.Findings
import SourceAtlas.Problem

namespace SourceAtlas

inductive Extraction where
  | complete (outline : Outline)
  /-- The grammar rejected part of the file; the outline holds what could be recovered. -/
  | incomplete (outline : Outline) (problem : Problem)
  | failed (problem : Problem)

namespace Extraction

def outline? : Extraction → Option Outline
  | .complete outline | .incomplete outline _ => some outline
  | .failed _ => none

def problem? : Extraction → Option Problem
  | .complete _ => none
  | .incomplete _ problem | .failed problem => some problem

def isComplete : Extraction → Bool
  | .complete _ => true
  | _ => false

def status : Extraction → String
  | .complete _ => "complete"
  | .incomplete _ _ => "partial"
  | .failed _ => "failed"

end Extraction

def syntaxProblem (path : Path) (language : Language) (source : Bytes) (tree : Node) : Problem :=
  let problem := Problem.parse path ("syntax error in " ++ language.name ++ " file")
  match tree.firstError? source with
  | some (line, column) => problem.located line column
  | none => problem

def Extraction.withoutTree (path : Path) (language : Language) (source : Bytes) (why : ParseFailure) :
    Extraction :=
  .incomplete { path, language, content := source }
    (.parse path ("failed to parse " ++ language.name ++ " file: " ++ why.message))

def Extraction.ofStored (file : ScannedFile) (language : Language) (grammar : Grammar) (passes : List Pass)
    (stored : StoredFile) : Extraction :=
  if stored.content.isEmpty then .withoutTree file.path language stored.content .emptyContent
  else
    match stored.tree? grammar with
    | none => .withoutTree file.path language stored.content .noTree
    | some tree =>
      let found := Pass.runAll passes ⟨file.path, language, stored.content, .ofRoot tree⟩
      let outline : Outline :=
        { path := file.path, language, content := stored.content, symbols := found.symbols,
          dependencies := found.dependencies }
      if tree.hasErrors then .incomplete outline (syntaxProblem file.path language stored.content tree)
      else .complete outline

def Disk.readThen (disk : Disk) (file : ScannedFile) (next : StoredFile → Extraction) : Extraction :=
  match disk.read file.diskPath with
  | .ok stored => next stored
  | .error failure => .failed (.filesystem file.path failure.message)

def Disk.extract (disk : Disk) (file : ScannedFile) (language : Language) (passes : List Pass) : Extraction :=
  disk.readThen file (Extraction.ofStored file language (.ofFile language file.path) passes)

def ScannedFile.languageAmong (file : ScannedFile) (supported : List Language) (default : Language) :
    Language :=
  ((Language.ofTag? file.tag).filter supported.contains).getD default

end SourceAtlas
