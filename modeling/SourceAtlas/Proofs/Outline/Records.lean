import Mathlib.Logic.Relation
import Mathlib.Tactic.Lemma
import SourceAtlas.Outline.Record

/-! A record gives back all of an outline but the content; what it holds beyond its fields is without effect, and one
that lacks a field is refused. -/

namespace SourceAtlas

namespace Json

lemma get?_eq_none {name : String} {members : List (String × Json)} (h : ∀ m ∈ members, m.1 ≠ name) :
    (Json.obj members).get? name = none := by
  have hf : members.filter (·.1 == name) = [] := by simpa using h
  rw [get?, hf]

lemma get?_cons_of_ne {name key : String} (h : key ≠ name) (v : Json) (members : List (String × Json)) :
    (Json.obj ((key, v) :: members)).get? name = (Json.obj members).get? name := by
  simp [get?, h]

lemma get?_cons_self (name : String) (v : Json) (members : List (String × Json)) :
    (Json.obj ((name, v) :: members)).get? name = if members.any (·.1 == name) then none else some v := by
  simp only [get?, List.filter_cons, beq_self_eq_true, if_true]
  cases hf : members.filter (·.1 == name) with
  | nil =>
    have hnone : members.any (·.1 == name) = false := List.any_eq_false.mpr (List.filter_eq_nil_iff.mp hf)
    rw [hnone]
    rfl
  | cons first rest =>
    have hfirst : first ∈ members.filter (·.1 == name) := hf ▸ List.mem_cons_self
    have hsome : members.any (·.1 == name) = true := List.any_eq_true.mpr ⟨first, List.mem_filter.mp hfirst⟩
    rw [hsome]
    rfl

lemma get?_insert {name key : String} (h : key ≠ name) (before after : List (String × Json)) (v : Json) :
    (Json.obj (before ++ (key, v) :: after)).get? name = (Json.obj (before ++ after)).get? name := by
  simp [get?, h]

lemma get?_bind_congr {α : Type} {read : Json → Option α} {v w : Json} (h : read w = read v) (key : String)
    (before after : List (String × Json)) :
    ((Json.obj (before ++ (key, w) :: after)).get? key).bind read =
      ((Json.obj (before ++ (key, v) :: after)).get? key).bind read := by
  simp only [get?, List.filter_append, List.filter_cons, beq_self_eq_true, if_true]
  generalize before.filter (·.1 == key) = front
  generalize after.filter (·.1 == key) = back
  cases front with
  | nil =>
    cases back with
    | nil => exact h
    | cons => rfl
  | cons m front => cases front <;> rfl

lemma fields?_congr {names : List String} {members members' : List (String × Json)}
    (h : ∀ name ∈ names, (Json.obj members').get? name = (Json.obj members).get? name) :
    (Json.obj members').fields? names = (Json.obj members).fields? names := by
  simp only [fields?]
  induction names with
  | nil => rfl
  | cons name names ih =>
    rw [List.mapM_cons, List.mapM_cons, h name List.mem_cons_self,
      ih fun n hn => h n (List.mem_cons_of_mem _ hn)]

lemma mapM_eq_none {α β : Type} {f : α → Option β} {items : List α} {item : α} (hitem : item ∈ items)
    (h : f item = none) : items.mapM f = none := by
  induction items with
  | nil => cases hitem
  | cons first items ih =>
    rw [List.mapM_cons]
    rcases List.mem_cons.mp hitem with rfl | hitem
    · simp [h]
    · simp [ih hitem]

lemma fields?_eq_none {names : List String} {name : String} {members : List (String × Json)}
    (hname : name ∈ names) (h : (Json.obj members).get? name = none) :
    (Json.obj members).fields? names = none :=
  mapM_eq_none hname h

lemma choiceAmong?_spelling {α : Type} {items : List α} {spelling name : α → String}
    (hs : ∀ a, spelling a = name a) {a : α} (h : items.find? (name · == name a) = some a) :
    choiceAmong? items spelling (.str (spelling a)) = some a := by
  simpa [choiceAmong?, choice?, hs] using h

lemma uint32?_toNat (n : UInt32) : (Json.nat n.toNat).uint32? = some n := by
  simp [uint32?, nat?, n.toNat_lt_size]

lemma uint64?_toNat (n : UInt64) : (Json.nat n.toNat).uint64? = some n := by
  simp [uint64?, nat?, n.toNat_lt_size]

end Json

section Spellings

lemma SymbolKind.mem_all (kind : SymbolKind) : kind ∈ SymbolKind.all := by
  cases kind <;> decide

lemma SymbolKind.spelling_eq_name (kind : SymbolKind) : kind.spelling = kind.name := by
  have h : ∀ kind ∈ SymbolKind.all, kind.spelling = kind.name := by decide +kernel
  exact h kind kind.mem_all

lemma SymbolKind.ofJson?_toJson (kind : SymbolKind) : SymbolKind.ofJson? kind.toJson = some kind := by
  have h : ∀ kind ∈ SymbolKind.all, SymbolKind.all.find? (·.name == kind.name) = some kind := by
    decide +kernel
  exact Json.choiceAmong?_spelling SymbolKind.spelling_eq_name (h kind kind.mem_all)

lemma DependencyKind.mem_all (kind : DependencyKind) : kind ∈ DependencyKind.all := by
  cases kind <;> decide

lemma DependencyKind.spelling_eq_name (kind : DependencyKind) : kind.spelling = kind.name := by
  have h : ∀ kind ∈ DependencyKind.all, kind.spelling = kind.name := by decide +kernel
  exact h kind kind.mem_all

lemma DependencyKind.ofJson?_toJson (kind : DependencyKind) :
    DependencyKind.ofJson? kind.toJson = some kind := by
  have h : ∀ kind ∈ DependencyKind.all, DependencyKind.all.find? (·.name == kind.name) = some kind := by
    decide +kernel
  exact Json.choiceAmong?_spelling DependencyKind.spelling_eq_name (h kind kind.mem_all)

lemma Language.mem_all (language : Language) : language ∈ Language.all := by
  cases language <;> decide

lemma Language.spelling_eq_name (language : Language) : language.spelling = language.name := by
  have h : ∀ language ∈ Language.all, language.spelling = language.name := by decide +kernel
  exact h language language.mem_all

lemma Language.ofJson?_toJson (language : Language) : Language.ofJson? language.toJson = some language := by
  have h : ∀ language ∈ Language.all, Language.all.find? (·.name == language.name) = some language := by
    decide +kernel
  exact Json.choiceAmong?_spelling Language.spelling_eq_name (h language language.mem_all)

end Spellings

namespace Symbol

lemma items?_eq_mapM (items : List Json) : items? items = items.mapM ofJson? := by
  induction items with
  | nil => rw [items?, List.mapM_nil]; rfl
  | cons item items ih => rw [items?, List.mapM_cons, ih]

lemma children?_eq_bind (members : List (String × Json)) :
    children? members = ((Json.obj members).get? "children").bind list? := by
  induction members with
  | nil => rfl
  | cons member members ih =>
    obtain ⟨name, value⟩ := member
    rw [children?]
    by_cases hname : name = "children"
    · subst name
      rw [Json.get?_cons_self, if_pos (beq_self_eq_true _)]
      split <;> rfl
    · rw [if_neg (by simpa using hname), ih, Json.get?_cons_of_ne hname]

end Symbol

inductive Record where
  | outline
  | symbol
  | span
  | dependency

namespace Record

abbrev Value : Record → Type
  | outline => Outline
  | symbol => Symbol
  | span => Span
  | dependency => Dependency

def read : (r : Record) → Json → Option r.Value
  | outline => Outline.ofJson?
  | symbol => Symbol.ofJson?
  | span => Span.ofJson?
  | dependency => Dependency.ofJson?

def readAll (r : Record) (v : Json) : Option (List r.Value) := v.arr?.bind fun items => items.mapM r.read

def fieldNames : Record → List String
  | outline => Outline.fieldNames
  | symbol => ["name", "kind", "signature", "span", "docstring", "children"]
  | span => Span.fieldNames
  | dependency => Dependency.fieldNames

inductive Holds : Record → String → Record → Prop
  | span : Holds symbol "span" span

inductive Lists : Record → String → Record → Prop
  | symbols : Lists outline "symbols" symbol
  | dependencies : Lists outline "dependencies" dependency
  | children : Lists symbol "children" symbol

/-- The second value has one member more than the first, here or in a record further inside, and this member
is none of the fields of the record that it stands in. -/
inductive Padded : Record → Json → Json → Prop
  | here {r : Record} {name : String} (h : name ∉ r.fieldNames) (before after : List (String × Json))
      (value : Json) : Padded r (.obj (before ++ after)) (.obj (before ++ (name, value) :: after))
  | within {r inner : Record} {name : String} (h : Holds r name inner) {v w : Json} (hp : Padded inner v w)
      (before after : List (String × Json)) :
      Padded r (.obj (before ++ (name, v) :: after)) (.obj (before ++ (name, w) :: after))
  | among {r inner : Record} {name : String} (h : Lists r name inner) {v w : Json} (hp : Padded inner v w)
      (front back : List Json) (before after : List (String × Json)) :
      Padded r (.obj (before ++ (name, .arr (front ++ v :: back)) :: after))
        (.obj (before ++ (name, .arr (front ++ w :: back)) :: after))

/-- An object that lacks a field of its record, here or in a record further inside. -/
inductive Lacking : Record → Json → Prop
  | here {r : Record} {name : String} (h : name ∈ r.fieldNames) {members : List (String × Json)}
      (hm : ∀ m ∈ members, m.1 ≠ name) : Lacking r (.obj members)
  | within {r inner : Record} {name : String} (h : Holds r name inner) {v : Json} (hl : Lacking inner v)
      {members : List (String × Json)} (hm : (Json.obj members).get? name = some v) : Lacking r (.obj members)
  | among {r inner : Record} {name : String} (h : Lists r name inner) {v : Json} (hl : Lacking inner v)
      {items : List Json} (hv : v ∈ items) {members : List (String × Json)}
      (hm : (Json.obj members).get? name = some (.arr items)) : Lacking r (.obj members)

lemma readAll_symbol : Record.symbol.readAll = Symbol.list? := by
  funext v
  cases v <;> simp [readAll, Json.arr?, Symbol.list?, Symbol.items?_eq_mapM, read]

lemma readAll_congr {r : Record} {v w : Json} (h : r.read w = r.read v) (front back : List Json) :
    r.readAll (.arr (front ++ w :: back)) = r.readAll (.arr (front ++ v :: back)) := by
  simp [readAll, Json.arr?, List.mapM_append, h]

lemma readAll_eq_none {r : Record} {v : Json} {items : List Json} (hv : v ∈ items) (h : r.read v = none) :
    r.readAll (.arr items) = none :=
  Json.mapM_eq_none hv h

lemma read_symbol (members : List (String × Json)) :
    Record.symbol.read (.obj members) = (do
      return ⟨← ((Json.obj members).get? "name").bind Json.str?,
        ← ((Json.obj members).get? "kind").bind SymbolKind.ofJson?,
        ← ((Json.obj members).get? "signature").bind Json.str?,
        ← ((Json.obj members).get? "span").bind Record.span.read,
        ← ((Json.obj members).get? "docstring").bind Json.str?,
        ← ((Json.obj members).get? "children").bind Record.symbol.readAll⟩) := by
  rw [read, Symbol.ofJson?, Symbol.children?_eq_bind, readAll_symbol]
  rcases (Json.obj members).get? "name" with _ | name
  · simp
  rcases (Json.obj members).get? "kind" with _ | kind
  · simp
  rcases (Json.obj members).get? "signature" with _ | signature
  · simp
  rcases (Json.obj members).get? "span" with _ | span
  · simp
  rcases (Json.obj members).get? "docstring" with _ | docstring
  · simp
  rcases (Json.obj members).get? "children" with _ | children <;> simp [Symbol.ofFields?, read]

lemma read_outline (members : List (String × Json)) :
    Record.outline.read (.obj members) = (do
      let path ← ((Json.obj members).get? "path").bind Json.str?
      let language ← ((Json.obj members).get? "language").bind Language.ofJson?
      let symbols ← ((Json.obj members).get? "symbols").bind Record.symbol.readAll
      let dependencies ← ((Json.obj members).get? "dependencies").bind Record.dependency.readAll
      return { path := ⟨path⟩, language, symbols, dependencies }) := by
  rw [readAll_symbol]
  simp only [read, Outline.ofJson?, Json.fields?, Outline.fieldNames, List.mapM_cons, List.mapM_nil]
  rcases (Json.obj members).get? "path" with _ | path
  · simp
  rcases (Json.obj members).get? "language" with _ | language
  · simp
  rcases (Json.obj members).get? "symbols" with _ | symbols
  · simp
  rcases (Json.obj members).get? "dependencies" with _ | dependencies
  · simp
  simp [readAll, read, Option.bind_assoc]

lemma read_congr {r : Record} {members members' : List (String × Json)}
    (h : ∀ name ∈ r.fieldNames, (Json.obj members').get? name = (Json.obj members).get? name) :
    r.read (.obj members') = r.read (.obj members) := by
  have hfields := Json.fields?_congr h
  cases r with
  | outline =>
    rw [fieldNames] at hfields
    simp only [read, Outline.ofJson?, hfields]
  | symbol =>
    simp only [fieldNames, List.forall_mem_cons] at h
    obtain ⟨hname, hkind, hsignature, hspan, hdocstring, hchildren, -⟩ := h
    rw [read_symbol, read_symbol, hname, hkind, hsignature, hspan, hdocstring, hchildren]
  | span =>
    rw [fieldNames] at hfields
    simp only [read, Span.ofJson?, hfields]
  | dependency =>
    rw [fieldNames] at hfields
    simp only [read, Dependency.ofJson?, hfields]

lemma read_eq_none {r : Record} {name : String} (hname : name ∈ r.fieldNames)
    {members : List (String × Json)} (h : (Json.obj members).get? name = none) :
    r.read (.obj members) = none := by
  have hfields := Json.fields?_eq_none hname h
  cases r with
  | outline =>
    rw [fieldNames] at hfields
    simp [read, Outline.ofJson?, hfields]
  | symbol =>
    rw [read_symbol]
    simp only [fieldNames, List.mem_cons, List.not_mem_nil, or_false] at hname
    rcases hname with rfl | rfl | rfl | rfl | rfl | rfl <;> simp [h]
  | span =>
    rw [fieldNames] at hfields
    simp [read, Span.ofJson?, hfields]
  | dependency =>
    rw [fieldNames] at hfields
    simp [read, Dependency.ofJson?, hfields]

lemma Padded.read_eq {r : Record} {v w : Json} (h : r.Padded v w) : r.read w = r.read v := by
  induction h with
  | here hname before after value =>
    exact read_congr fun _ hn => Json.get?_insert (ne_of_mem_of_not_mem hn hname).symm before after value
  | @within r inner name hfield v w hp before after ih =>
    have hread := Json.get?_bind_congr ih name before after
    cases hfield with
    | span => simp [read_symbol, Json.get?_insert, hread]
  | @among r inner name hfield v w hp front back before after ih =>
    have hread := Json.get?_bind_congr (readAll_congr ih front back) name before after
    cases hfield with
    | symbols => simp [read_outline, Json.get?_insert, hread]
    | dependencies => simp [read_outline, Json.get?_insert, hread]
    | children => simp [read_symbol, Json.get?_insert, hread]

lemma Lacking.read_eq_none {r : Record} {v : Json} (h : r.Lacking v) : r.read v = none := by
  induction h with
  | here hname hm => exact Record.read_eq_none hname (Json.get?_eq_none hm)
  | within hfield hl hm ih =>
    cases hfield with
    | span => simp [read_symbol, hm, ih]
  | among hfield hl hv hm ih =>
    have hread := readAll_eq_none hv ih
    cases hfield with
    | symbols => simp [read_outline, hm, hread]
    | dependencies => simp [read_outline, hm, hread]
    | children => simp [read_symbol, hm, hread]

end Record

section ReadingBack

lemma Span.ofJson?_toJson (span : Span) : Span.ofJson? span.toJson = some span := by
  simp [Span.ofJson?, Span.toJson, Json.fields?, Span.fieldNames, Json.get?, Json.uint32?_toNat,
    Json.uint64?_toNat]

lemma Dependency.ofJson?_toJson (d : Dependency) : Dependency.ofJson? d.toJson = some d := by
  simp [Dependency.ofJson?, Dependency.toJson, Json.fields?, Dependency.fieldNames, Json.get?, Json.str?,
    Json.bool?, DependencyKind.ofJson?_toJson]

mutual
lemma Symbol.ofJson?_toJson : ∀ s : Symbol, Symbol.ofJson? s.toJson = some s
  | ⟨name, kind, signature, span, docstring, children⟩ => by
    have hchildren := Symbol.items?_toJsons children
    simp [Symbol.toJson, Symbol.ofJson?, Symbol.children?, Symbol.list?, Symbol.ofFields?, Json.get?,
      Json.str?, SymbolKind.ofJson?_toJson, Span.ofJson?_toJson, hchildren]

lemma Symbol.items?_toJsons : ∀ symbols : List Symbol, Symbol.items? (Symbol.toJsons symbols) = some symbols
  | [] => by rw [Symbol.toJsons, Symbol.items?]
  | s :: symbols => by
    simp [Symbol.toJsons, Symbol.items?, Symbol.ofJson?_toJson s, Symbol.items?_toJsons symbols]
end

lemma Dependency.mapM_ofJson? (dependencies : List Dependency) :
    (dependencies.map Dependency.toJson).mapM Dependency.ofJson? = some dependencies := by
  induction dependencies with
  | nil => rfl
  | cons d dependencies ih => simp [ih, Dependency.ofJson?_toJson]

lemma Outline.ofJson?_toJson (f : Outline) : Outline.ofJson? f.toJson = some { f with content := [] } := by
  simp [Outline.ofJson?, Outline.toJson, Json.fields?, Outline.fieldNames, Json.get?, Json.str?, Json.arr?,
    Symbol.list?, Language.ofJson?_toJson, Symbol.items?_toJsons, -List.mapM_map, Dependency.mapM_ofJson?]

end ReadingBack

theorem records_keep_all_but_content :
    (∀ f : Outline, Outline.ofJson? f.toJson = some { f with content := [] }) ∧
    (∀ kind : SymbolKind, kind.toJson = .str kind.name) ∧
    (∀ kind : DependencyKind, kind.toJson = .str kind.name) ∧
    (∀ language : Language, language.toJson = .str language.name) ∧
    (∀ (r : Record) (v w : Json), Relation.ReflTransGen r.Padded v w → r.read w = r.read v) ∧
    (∀ (r : Record) (v : Json), r.Lacking v → r.read v = none) := by
  refine ⟨Outline.ofJson?_toJson, ?_, ?_, ?_, ?_, fun r v h => h.read_eq_none⟩
  · exact fun kind => congrArg Json.str kind.spelling_eq_name
  · exact fun kind => congrArg Json.str kind.spelling_eq_name
  · exact fun language => congrArg Json.str language.spelling_eq_name
  · intro r v w h
    induction h with
    | refl => rfl
    | tail _ hp ih => rw [hp.read_eq, ih]

def methodRecord (span : List (String × Json)) : Json :=
  .obj [("path", .str "a.py"), ("language", .str "python"),
    ("symbols", .arr [.obj [("name", .str "Shape"), ("kind", .str "class"), ("signature", .str "class Shape"),
      ("span", Span.toJson {}), ("docstring", .str ""),
      ("children", .arr [.obj [("name", .str "area"), ("kind", .str "method"),
        ("signature", .str "def area(self)"), ("span", .obj span), ("docstring", .str ""),
        ("children", .arr [])]])]]),
    ("dependencies", .arr [])]

theorem span_of_method_may_have_note_but_needs_start_line :
    (Outline.ofJson? (methodRecord (Span.fieldNames.map fun name => (name, .nat 1)))).isSome ∧
    Outline.ofJson? (methodRecord (("note", .null) :: Span.fieldNames.map fun name => (name, .nat 1))) =
      Outline.ofJson? (methodRecord (Span.fieldNames.map fun name => (name, .nat 1))) ∧
    Outline.ofJson? (methodRecord (Span.fieldNames.tail.map fun name => (name, .nat 1))) = none := by
  obtain ⟨-, -, -, -, hpadded, hlacking⟩ := records_keep_all_but_content
  refine ⟨by decide +kernel, hpadded .outline _ _ (.single ?_), hlacking .outline _ ?_⟩
  · exact .among .symbols (.among .children (.within .span
      (.here (by decide) [] _ .null) [_, _, _] [_, _]) [] [] [_, _, _, _, _] []) [] [] [_, _] [_]
  · exact .among .symbols (.among .children (.within .span
      (.here (List.mem_cons_self) (by decide)) rfl) List.mem_cons_self rfl) List.mem_cons_self rfl

end SourceAtlas
