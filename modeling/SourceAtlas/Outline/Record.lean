import SourceAtlas.Json
import SourceAtlas.Outline

/-! Outlines as JSON records, without the content of the file. -/

namespace SourceAtlas

namespace Json

/-- The fields of a record under the given names: the members of an object, or as many list items. -/
def fields? (names : List String) : Json → Option (List Json)
  | .arr items => if items.length = names.length then some items else none
  | value => names.mapM fun name => value.get? name

def snakeCase (title : String) : String :=
  match title.toList with
  | [] => ""
  | c :: cs =>
    String.ofList (c.toLower :: cs.flatMap fun c => if c.isUpper then ['_', c.toLower] else [c.toLower])

def lowerCase (title : String) : String := String.ofList (title.toList.map Char.toLower)

/-- A choice by its name, given as a text or as the name of the only member of an object, which is null. -/
def choice? : Json → Option String
  | .str name => some name
  | .obj [(name, .null)] => some name
  | _ => none

def choiceAmong? {α : Type} (items : List α) (spelling : α → String) (value : Json) : Option α :=
  value.choice?.bind fun name => items.find? (spelling · == name)

def uint32? (value : Json) : Option UInt32 :=
  value.nat?.bind fun n => if n < UInt32.size then some (UInt32.ofNat n) else none

def uint64? (value : Json) : Option UInt64 :=
  value.nat?.bind fun n => if n < UInt64.size then some (UInt64.ofNat n) else none

end Json

namespace SymbolKind

def spelling (kind : SymbolKind) : String := Json.snakeCase kind.title

def toJson (kind : SymbolKind) : Json := .str kind.spelling

def ofJson? : Json → Option SymbolKind := Json.choiceAmong? all spelling

end SymbolKind

namespace DependencyKind

def spelling (kind : DependencyKind) : String := Json.snakeCase kind.title

def toJson (kind : DependencyKind) : Json := .str kind.spelling

def ofJson? : Json → Option DependencyKind := Json.choiceAmong? all spelling

end DependencyKind

namespace Language

def spelling (language : Language) : String := Json.lowerCase language.title

def toJson (language : Language) : Json := .str language.spelling

def ofJson? : Json → Option Language := Json.choiceAmong? all spelling

end Language

namespace Span

def fieldNames : List String :=
  ["start_line", "start_column", "end_line", "end_column", "start_byte", "end_byte"]

def toJson (s : Span) : Json :=
  .obj [("start_line", .nat s.startLine.toNat), ("start_column", .nat s.startColumn.toNat),
    ("end_line", .nat s.endLine.toNat), ("end_column", .nat s.endColumn.toNat),
    ("start_byte", .nat s.startByte.toNat), ("end_byte", .nat s.endByte.toNat)]

def ofJson? (value : Json) : Option Span := do
  let [startLine, startColumn, endLine, endColumn, startByte, endByte] ← value.fields? fieldNames | none
  return ⟨← startLine.uint32?, ← startColumn.uint32?, ← endLine.uint32?, ← endColumn.uint32?,
    ← startByte.uint64?, ← endByte.uint64?⟩

end Span

namespace Symbol

mutual
def toJson : Symbol → Json
  | ⟨name, kind, signature, span, docstring, children⟩ =>
    .obj [("name", .str name), ("kind", kind.toJson), ("signature", .str signature),
      ("span", span.toJson), ("docstring", .str docstring), ("children", .arr (toJsons children))]

def toJsons : List Symbol → List Json
  | [] => []
  | s :: ss => s.toJson :: toJsons ss
end

def ofFields? (name kind signature span docstring : Json) (children : Option (List Symbol)) :
    Option Symbol := do
  return ⟨← name.str?, ← SymbolKind.ofJson? kind, ← signature.str?, ← Span.ofJson? span,
    ← docstring.str?, ← children⟩

mutual
def ofJson? : Json → Option Symbol
  | .obj members => do
    ofFields? (← (Json.obj members).get? "name") (← (Json.obj members).get? "kind")
      (← (Json.obj members).get? "signature") (← (Json.obj members).get? "span")
      (← (Json.obj members).get? "docstring") (children? members)
  | .arr [name, kind, signature, span, docstring, children] =>
    ofFields? name kind signature span docstring (list? children)
  | _ => none

def children? : List (String × Json) → Option (List Symbol)
  | [] => none
  | (name, value) :: members =>
    if name == "children" then if members.any (·.1 == "children") then none else list? value
    else children? members

def list? : Json → Option (List Symbol)
  | .arr items => items? items
  | _ => none

def items? : List Json → Option (List Symbol)
  | [] => some []
  | item :: items => do return (← ofJson? item) :: (← items? items)
end

end Symbol

namespace Dependency

def fieldNames : List String := ["kind", "source", "target", "target_module", "is_external"]

def toJson (d : Dependency) : Json :=
  .obj [("kind", d.kind.toJson), ("source", .str d.source), ("target", .str d.target),
    ("target_module", .str d.targetModule), ("is_external", .bool d.isExternal)]

def ofJson? (value : Json) : Option Dependency := do
  let [kind, source, target, targetModule, isExternal] ← value.fields? fieldNames | none
  return ⟨← DependencyKind.ofJson? kind, ← source.str?, ← target.str?, ← targetModule.str?,
    ← isExternal.bool?⟩

end Dependency

namespace Outline

def fieldNames : List String := ["path", "language", "symbols", "dependencies"]

def toJson (f : Outline) : Json :=
  .obj [("path", .str f.path.text), ("language", f.language.toJson),
    ("symbols", .arr (Symbol.toJsons f.symbols)),
    ("dependencies", .arr (f.dependencies.map Dependency.toJson))]

def ofJson? (value : Json) : Option Outline := do
  let [path, language, symbols, dependencies] ← value.fields? fieldNames | none
  return {
    path := ⟨← path.str?⟩
    language := ← Language.ofJson? language
    symbols := ← Symbol.list? symbols
    dependencies := ← (← dependencies.arr?).mapM Dependency.ofJson? }

end Outline

end SourceAtlas
