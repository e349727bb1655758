import SourceAtlas.Text.Find
import SourceAtlas.Text.Letter
import SourceAtlas.Text.Split

/-! Two signatures declare the same function if their names and the types of their parameters agree; qualifiers,
parameter names and default values do not count. -/

namespace SourceAtlas

structure Signature where
  name : List Char
  parameters : List (List Char)
  deriving DecidableEq

namespace Signature

def qualifiers : List (List Char) :=
  ["const".toList, "volatile".toList, "noexcept".toList, "override".toList, "final".toList]

/-- Words that end a parameter's type rather than name the parameter. -/
def builtinTypes : List (List Char) :=
  ["auto".toList, "bool".toList, "char".toList, "double".toList, "float".toList, "int".toList, "long".toList,
    "short".toList, "signed".toList, "unsigned".toList, "void".toList, "wchar_t".toList, "size_t".toList]

def keptWord (word : List Char) : List Char := if qualifiers.contains word then [] else word

/-- The text without its qualifiers, where `word` is the word right before it. -/
def dropQualifiers (word : List Char) : List Char → List Char
  | [] => keptWord word
  | c :: cs =>
    if Text.isWordChar c then dropQualifiers (word ++ [c]) cs
    else keptWord word ++ c :: dropQualifiers [] cs

def normalize (cs : List Char) : List Char := Text.collapse (dropQualifiers [] cs)

/-- The pieces between the commas outside angle brackets, where `depth` of them are open. There is always
at least one piece. A closing bracket without an opening one does not count. -/
def splitAtCommas : (depth : Nat) → List Char → List (List Char)
  | _, [] => [[]]
  | depth, c :: cs =>
    if c == '<' then (splitAtCommas (depth + 1) cs).modifyHead (c :: ·)
    else if c == '>' then (splitAtCommas (depth - 1) cs).modifyHead (c :: ·)
    else if c == ',' && depth == 0 then [] :: splitAtCommas depth cs
    else (splitAtCommas depth cs).modifyHead (c :: ·)

def splitParameters (cs : List Char) : List (List Char) :=
  let pieces := splitAtCommas 0 cs
  if pieces.getLast? = some [] then pieces.dropLast else pieces

def isSign (c : Char) : Bool := c == '*' || c == '&'

def isIdentifier (word : List Char) : Bool :=
  (word.head?.any fun c => Text.isLetter c || c == '_') && word.all Text.isWordChar

/-- The words of a parameter without the parameter's name. The name is the last of several words, if it is
an identifier after its signs; the signs stay. -/
def typeWords (words : List (List Char)) : List (List Char) :=
  match words.getLast? with
  | none => []
  | some last =>
    let name := last.dropWhile isSign
    let signs := last.takeWhile isSign
    if 1 < words.length && isIdentifier name && !builtinTypes.contains name then
      words.dropLast ++ (if signs.isEmpty then [] else [signs])
    else words

def parameterType (cs : List Char) : List Char :=
  Text.closeUp '&' (Text.closeUp '*' ([' '].intercalate (typeWords (Text.words (cs.takeWhile (· != '='))))))

def nameOf (cs : List Char) : List Char :=
  match (Text.words cs).getLast? with
  | none => []
  | some word => (Text.afterLast "::".toList word).dropWhile isSign

/-- The parameters between the parentheses; `void` alone means that there are none. -/
def parametersOf (cs : List Char) : List (List Char) :=
  let inner := Text.trim cs
  if inner = [] ∨ inner = "void".toList then [] else (splitParameters inner).map Text.trim

/-- Reads a signature. The parameters stand between the first opening and the last closing parenthesis.
Without parentheses there is not even a name. -/
def parse (cs : List Char) : Signature :=
  match cs.dropWhile (· != '(') with
  | [] => ⟨[], []⟩
  | _ :: rest =>
    let name := nameOf (cs.takeWhile (· != '('))
    if rest.contains ')' then ⟨name, parametersOf (Text.dropEnd (· != ')') rest).dropLast⟩ else ⟨name, []⟩

def agree (a b : List Char) : Bool :=
  let first := parse (normalize a)
  let second := parse (normalize b)
  first.name == second.name &&
    first.parameters.map parameterType == second.parameters.map parameterType

/-- The name of the method of `owner` that a signature defines out of class. The scope has to be the whole
word `owner`. -/
def methodOf? (owner cs : List Char) : Option (List Char) :=
  match (Text.occurrences (owner ++ "::".toList) cs).find? (!·.before.any Text.isWordChar) with
  | none => none
  | some found =>
    let name := Text.trim (found.rest.takeWhile (· != '('))
    if found.rest.contains '(' && !name.isEmpty then some name else none

end Signature

end SourceAtlas
