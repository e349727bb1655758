import Mathlib.Data.List.Basic
import SourceAtlas.Proofs.Unmarked.Trees

namespace SourceAtlas

namespace View

def unmarked (v : View) : View := { v with root := v.root.unmarked }

variable (v : View) (p : Place)

@[simp] lemma unmarked_path : v.unmarked.path = v.path := rfl

@[simp] lemma unmarked_language : v.unmarked.language = v.language := rfl

@[simp] lemma unmarked_root : v.unmarked.root = v.root.unmarked := rfl

@[simp] lemma slice_unmarked : v.unmarked.slice = v.slice := rfl

@[simp] lemma text?_unmarked : v.unmarked.text? p.unmarked = v.text? p := by
  simp [text?, unmarked]

@[simp] lemma text_unmarked : v.unmarked.text p.unmarked = v.text p := by
  simp [text]

@[simp] lemma chars_unmarked : v.unmarked.chars p.unmarked = v.chars p := by
  simp [chars]

@[simp] lemma collapsed_unmarked : v.unmarked.collapsed p.unmarked = v.collapsed p := by
  simp [collapsed]

@[simp] lemma trimmed_unmarked : v.unmarked.trimmed p.unmarked = v.trimmed p := by
  simp [trimmed]

@[simp] lemma firstLine_unmarked : v.unmarked.firstLine p.unmarked = v.firstLine p := by
  simp [firstLine]

@[simp] lemma head_unmarked (keepSemicolon : Bool) :
    v.unmarked.head p.unmarked keepSemicolon = v.head p keepSemicolon := by
  simp [head]

@[simp] lemma colonHead_unmarked : v.unmarked.colonHead p.unmarked = v.colonHead p := by
  simp [colonHead]

@[simp] lemma headBeforeBody_unmarked : v.unmarked.headBeforeBody p.unmarked = v.headBeforeBody p := by
  simp [headBeforeBody, Function.comp_def]

@[simp] lemma bareName_unmarked : v.unmarked.bareName p.unmarked = v.bareName p := by
  simp [bareName]

@[simp] lemma span_unmarked : v.unmarked.span p.unmarked = v.span p := by
  simp [span, unmarked]

@[simp] lemma doc_unmarked (kinds : List String) : v.unmarked.doc kinds p.unmarked = v.doc kinds p := by
  simp [doc, List.takeWhile_map, Function.comp_def]

@[simp] lemma docThrough_unmarked (kinds wrappers : List String) :
    v.unmarked.docThrough kinds wrappers p.unmarked = v.docThrough kinds wrappers p := by
  simp [docThrough, Option.filter_map, Function.comp_def]

@[simp] lemma symbol_unmarked (kind : SymbolKind) (name signature docstring : String) (children : List Symbol) :
    v.unmarked.symbol p.unmarked kind name signature docstring children =
      v.symbol p kind name signature docstring children := by
  simp [symbol]

@[simp] lemma findAll_unmarked (pattern : Pattern) (texts : List (String × String)) :
    v.unmarked.findAll pattern texts = (v.findAll pattern texts).map Match.unmarked :=
  Query.matchesIn_unmarked v.text_unmarked _ _

lemma captured_unmarked (name : String) (found : List Match) :
    (found.map Match.unmarked).filterMap (·.place? name) = (found.filterMap (·.place? name)).map Place.unmarked := by
  simp [List.map_filterMap]

@[simp] lemma placesOf_unmarked (name : String) (pattern : Pattern) :
    v.unmarked.placesOf name pattern = (v.placesOf name pattern).map Place.unmarked := by
  rw [placesOf, findAll_unmarked, captured_unmarked, placesOf]

end View

def Definition.unmarked (d : Definition) : Definition := ⟨d.name.unmarked, d.node.unmarked⟩

@[simp] lemma Definition.unmarked_name (d : Definition) : d.unmarked.name = d.name.unmarked := rfl

@[simp] lemma Definition.unmarked_node (d : Definition) : d.unmarked.node = d.node.unmarked := rfl

@[simp] lemma View.definitions_unmarked (v : View) (pattern : Pattern) :
    v.unmarked.definitions pattern = (v.definitions pattern).map Definition.unmarked := by
  have hmatch (m : Match) : Definition.ofMatch? m.unmarked = (Definition.ofMatch? m).map Definition.unmarked := by
    simp only [Definition.ofMatch?, Match.place?_unmarked]
    cases m.place? "name" <;> cases m.place? "definition" <;> rfl
  simp [definitions, List.map_filterMap, hmatch]

namespace Findings

variable (found : Findings)

@[simp] lemma ofDeclared_unmarked (names : List (Place × String)) :
    ofDeclared (names.map (Prod.map Place.unmarked id)) = ofDeclared names := by
  simp [ofDeclared, Function.comp_def]

@[simp] lemma ofDeclarations_unmarked (items : List (Place × Symbol)) :
    ofDeclarations (items.map (Prod.map Place.unmarked id)) = ofDeclarations items := by
  simp [ofDeclarations, Function.comp_def]

@[simp] lemma declaring_unmarked (p : Place) (s : Symbol) : declaring p.unmarked s = declaring p s := by
  simp [declaring]

@[simp] lemma enclosing?_unmarked (kinds : List String) (p : Place) :
    found.enclosing? kinds p.unmarked = found.enclosing? kinds p := by
  simp [enclosing?, nameOf?, List.findSome?_map, Function.comp_def]

end Findings

def CallSite.unmarked (site : CallSite) : CallSite := ⟨site.place.unmarked, site.target⟩

section

variable {places : List Place} {place? : Option Place}

lemma filterMap_unmarked {f : Place → Option Place} (h : ∀ p : Place, f p.unmarked = (f p).map Place.unmarked) :
    (places.map Place.unmarked).filterMap f = (places.filterMap f).map Place.unmarked := by
  simp [List.map_filterMap, h]

lemma flatMap_unmarked {f : Place → List Place} (h : ∀ p : Place, f p.unmarked = (f p).map Place.unmarked) :
    (places.map Place.unmarked).flatMap f = (places.flatMap f).map Place.unmarked := by
  simp [List.flatMap_map, List.map_flatMap, h]

lemma bind_unmarked {f : Place → Option Place} (h : ∀ p : Place, f p.unmarked = (f p).map Place.unmarked) :
    (place?.map Place.unmarked).bind f = (place?.bind f).map Place.unmarked := by
  cases place? with
  | none => rfl
  | some p => exact h p

end

lemma calls_unmarked {callers : List String} {sites sites' : List CallSite} (h : sites' = sites.map CallSite.unmarked)
    (found : Findings) : callEdges callers found sites' = callEdges callers found sites := by
  rw [h]
  simp [callEdges, CallSite.unmarked, Function.comp_def]

def Pass.IgnoresMarks (pass : Pass) : Prop := ∀ v found, pass v.unmarked found = pass v found

lemma Pass.runAll_unmarked {passes : List Pass} (h : ∀ pass ∈ passes, pass.IgnoresMarks) (v : View) :
    runAll passes v.unmarked = runAll passes v := by
  refine List.foldl_ext _ _ _ fun found pass hp => ?_
  rw [h pass hp v found]

end SourceAtlas
