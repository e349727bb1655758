import SourceAtlas.Disk
import SourceAtlas.Distinct
import SourceAtlas.Outline
import SourceAtlas.Signature
import SourceAtlas.Table

/-! Within a batch, each implementation file is paired with the header beside it and gets an edge for every
declaration that it implements, and one for the header itself. -/

namespace SourceAtlas

def implementationExtensions : List String := ["cpp", "cc", "cxx", "c++", "c", "m", "mm"]

def cppHeaderExtensions : List String := ["hpp", "hh", "hxx", "h"]

namespace Path

def pairExtensions (ext : String) : List String :=
  if headerExtensions.contains ext then implementationExtensions
  else if ["cpp", "cc", "cxx", "c++"].contains ext then cppHeaderExtensions
  else if ["c", "m", "mm"].contains ext then ["h"]
  else []

def pairCandidates (p : Path) : List Path :=
  ((p.extension?.map pairExtensions).getD []).map p.withExtension

end Path

def Disk.pairedFile? (d : Disk) (p : Path) : Option Path :=
  p.pairCandidates.find? d.isFile

namespace Pairing

def implementsEdge (source target : String) : Dependency := .edge .implementsDeclaration source target

def headerEdges (header implementation : Outline) : List Dependency :=
  if header.symbols.isEmpty || implementation.symbols.isEmpty then []
  else [.edge .implementsHeader implementation.path.text header.path.text]

def qualified (owner member : String) : String := owner ++ "::" ++ member

def functionEdges (declared : Symbol) (implementation : Outline) : List Dependency :=
  if declared.kind = .functionDeclaration then
    (implementation.symbols.filter fun defined =>
      defined.kind.isFunctionDefinition && defined.name == declared.name &&
        Signature.agree declared.signature.toList defined.signature.toList).map fun defined =>
      implementsEdge defined.name declared.name
  else []

def memberEdges (declared defined : Symbol) : List Dependency :=
  (declared.children.filter (·.kind.isMethod)).filterMap fun method =>
    (defined.children.find? fun m => m.kind.isMethod && m.name == method.name).map fun body =>
      implementsEdge (qualified defined.name body.name) (qualified declared.name method.name)

def outOfClassEdges (declared defined : Symbol) : List Dependency :=
  match Signature.methodOf? declared.name.toList defined.signature.toList with
  | none => []
  | some method =>
    let method := String.ofList method
    if declared.children.any (·.name == method) then
      [implementsEdge (qualified declared.name method) (qualified declared.name method)]
    else []

def classEdges (declared : Symbol) (implementation : Outline) : List Dependency :=
  if declared.kind.isClassLike then
    (implementation.symbols.filter fun s => s.kind.isClassLike && s.name == declared.name).flatMap
        (memberEdges declared) ++
      (implementation.symbols.filter fun s => s.kind = .function ∨ s.kind = .inlineFunction).flatMap
        (outOfClassEdges declared)
  else []

def linkCpp (header implementation : Outline) : List Dependency :=
  (header.symbols.flatMap fun declared =>
    functionEdges declared implementation ++ classEdges declared implementation) ++
    headerEdges header implementation

def blockEdges (header : Outline) (defined : Symbol) : List Dependency :=
  match header.symbols.find? fun s =>
      (s.kind == .interface || s.kind == .category) && s.name == defined.name with
  | none => []
  | some declared =>
    implementsEdge defined.name declared.name ::
      (defined.children.filter fun method =>
        declared.children.any fun m => m.kind == .method && m.name == method.name).map fun method =>
        implementsEdge (qualified defined.name method.name) (qualified declared.name method.name)

def linkObjC (header implementation : Outline) : List Dependency :=
  (implementation.symbols.filter (·.kind == .implementation)).flatMap (blockEdges header) ++
    headerEdges header implementation

def link (header implementation : Outline) : List Dependency :=
  match implementation.language with
  | .objC => linkObjC header implementation
  | .objCpp => distinctBy Dependency.key (linkCpp header implementation ++ linkObjC header implementation)
  | _ => linkCpp header implementation

def places (scanned : List ScannedFile) : Table (List Path.Component) Path :=
  .ofList (scanned.map fun file => (file.path.components, file.diskPath))

def diskPath? (scanned : List ScannedFile) (p : Path) : Option Path := (places scanned).get? p.components

def numbers (files : List Outline) (scanned : List ScannedFile) : Table (List Path.Component) Nat :=
  .numbering (fun f => ((diskPath? scanned f.path).map Path.components).toList) files

def fileAt? (files : List Outline) (scanned : List ScannedFile) (p : Path) : Option Outline :=
  ((numbers files scanned).get? p.components).bind (files[·]?)

def headerOf? (disk : Disk) (files : List Outline) (scanned : List ScannedFile) (file : Outline) :
    Option Outline :=
  if !file.language.isPaired || file.path.isHeader then none
  else ((diskPath? scanned file.path).bind disk.pairedFile?).bind (fileAt? files scanned)

def pending (disk : Disk) (files : List Outline) (scanned : List ScannedFile) : List (Nat × List Dependency) :=
  files.zipIdx.filterMap fun (file, i) => (headerOf? disk files scanned file).map fun header => (i, link header file)

/-- Pairs the files of a batch. No file changes before the edges of all files are found. -/
def resolve (disk : Disk) (scanned : List ScannedFile) (files : List Outline) : List Outline :=
  (pending disk files scanned).foldl
    (fun files (i, edges) => files.modify i fun file => { file with dependencies := file.dependencies ++ edges }) files

end Pairing

end SourceAtlas
