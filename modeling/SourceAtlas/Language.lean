import SourceAtlas.Text.Blank
import SourceAtlas.Path

namespace SourceAtlas

inductive Language where
  | go
  | javaScript
  | typeScript
  | python
  | kotlin
  | java
  | swift
  | objC
  | objCpp
  | c
  | cpp
  deriving DecidableEq

namespace Language

def all : List Language :=
  [.go, .javaScript, .typeScript, .python, .kotlin, .java, .swift, .objC, .objCpp, .c, .cpp]

def name : Language → String
  | .go => "go"
  | .javaScript => "javascript"
  | .typeScript => "typescript"
  | .python => "python"
  | .kotlin => "kotlin"
  | .java => "java"
  | .swift => "swift"
  | .objC => "objc"
  | .objCpp => "objcpp"
  | .c => "c"
  | .cpp => "cpp"

def title : Language → String
  | .go => "Go"
  | .javaScript => "JavaScript"
  | .typeScript => "TypeScript"
  | .python => "Python"
  | .kotlin => "Kotlin"
  | .java => "Java"
  | .swift => "Swift"
  | .objC => "ObjC"
  | .objCpp => "ObjCpp"
  | .c => "C"
  | .cpp => "Cpp"

def tags : Language → List String
  | .go => ["go", "golang"]
  | .javaScript => ["javascript", "js", "jsx"]
  | .typeScript => ["typescript", "ts", "tsx"]
  | .python => ["python", "py"]
  | .kotlin => ["kotlin", "kt"]
  | .java => ["java"]
  | .swift => ["swift"]
  | .objC => ["objc", "objective-c", "objectivec"]
  | .objCpp => ["objcpp", "objective-c++", "objc++"]
  | .c => ["c"]
  | .cpp => ["cpp", "c++", "cc", "cxx"]

def extensions : Language → List String
  | .go => ["go"]
  | .javaScript => ["js", "jsx", "mjs", "cjs"]
  | .typeScript => ["ts", "tsx", "mts", "cts"]
  | .python => ["py", "pyi"]
  | .kotlin => ["kt", "kts"]
  | .java => ["java"]
  | .swift => ["swift"]
  | .objC => ["m"]
  | .objCpp => ["mm"]
  | .c => ["c", "h"]
  | .cpp => ["cpp", "cc", "cxx", "c++", "hpp", "hh", "hxx"]

/-- Lower case as far as it reaches ASCII: besides the capitals A to Z only the Kelvin sign has a lower case
form there. Tags and extensions are ASCII, so no other letter can make a difference to them. -/
def lower (c : Char) : Char := if c == '\u212A' then 'k' else c.toLower

def ofTag? (tag : String) : Option Language :=
  let tag := String.ofList ((Text.trim tag.toList).map lower)
  all.find? fun language => language.tags.contains tag

def ofExtension? (ext : String) : Option Language :=
  let ext := String.ofList (ext.toList.map lower)
  all.find? fun language => language.extensions.contains ext

def isPaired (language : Language) : Bool :=
  language == .c || language == .cpp || language == .objC || language == .objCpp

end Language

inductive Grammar where
  | go
  | javaScript
  | typeScript
  | tsx
  | python
  | kotlin
  | java
  | swift
  | objC
  | c
  | cpp
  deriving DecidableEq

namespace Grammar

def all : List Grammar :=
  [.go, .javaScript, .typeScript, .tsx, .python, .kotlin, .java, .swift, .objC, .c, .cpp]

def name : Grammar → String
  | .go => "Go"
  | .javaScript => "JavaScript"
  | .typeScript => "TypeScript"
  | .tsx => "Tsx"
  | .python => "Python"
  | .kotlin => "Kotlin"
  | .java => "Java"
  | .swift => "Swift"
  | .objC => "ObjC"
  | .c => "C"
  | .cpp => "Cpp"

def ofName? (s : String) : Option Grammar := all.find? (·.name == s)

/-- The grammar of a language. Objective-C++ is read with the grammar of Objective-C unless both are asked
for. -/
def ofLanguage : Language → Grammar
  | .go => .go
  | .javaScript => .javaScript
  | .typeScript => .typeScript
  | .python => .python
  | .kotlin => .kotlin
  | .java => .java
  | .swift => .swift
  | .objC => .objC
  | .objCpp => .objC
  | .c => .c
  | .cpp => .cpp

/-- The grammar of a file: TypeScript has a dialect of its own for files that end in `.tsx`. -/
def ofFile (language : Language) (path : Path) : Grammar :=
  let ext := path.extension?.map fun ext => ext.toList.map Char.toLower
  if language = .typeScript ∧ ext = some "tsx".toList then
    .tsx
  else ofLanguage language

end Grammar

end SourceAtlas
