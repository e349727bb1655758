import SourceAtlas.Proofs.Merge.Distinct
import SourceAtlas.Proofs.Pairing.Links
import SourceAtlas.Proofs.Pairing.Snapshot

namespace SourceAtlas.Pairing

variable {header implementation : Outline}

structure DistinctUnion (first second links : List Dependency) : Prop where
  distinct : (links.map Dependency.key).Nodup
  union : ∀ key, key ∈ links.map Dependency.key ↔
    key ∈ first.map Dependency.key ∨ key ∈ second.map Dependency.key
  ordered : links = firstOccurrences Dependency.key (first ++ second)

lemma distinctUnion_distinctBy (first second : List Dependency) :
    DistinctUnion first second (distinctBy Dependency.key (first ++ second)) where
  distinct := nodup_map_distinctBy _
  union key := by rw [mem_map_distinctBy, List.map_append, List.mem_append]
  ordered := distinctBy_eq_firstOccurrences _

def fileLinks (links : List Dependency) : List Dependency := links.filter (·.kind == .implementsHeader)

lemma fileLinks_append_headerEdges {others : List Dependency} (h : ∀ d ∈ others, d.kind = .implementsDeclaration) :
    fileLinks (others ++ headerEdges header implementation) = headerEdges header implementation := by
  have hothers : others.filter (·.kind == .implementsHeader) = [] := by
    refine List.filter_eq_nil_iff.mpr fun d hd => ?_
    rw [h d hd]
    decide
  have hheader : (headerEdges header implementation).filter (·.kind == .implementsHeader) =
      headerEdges header implementation := by
    rw [headerEdges]
    split <;> rfl
  rw [fileLinks, List.filter_append, hothers, hheader, List.nil_append]

lemma fileLinks_linkCpp : fileLinks (linkCpp header implementation) = headerEdges header implementation := by
  refine fileLinks_append_headerEdges fun d hd => ?_
  obtain ⟨declared, hh, hd⟩ := List.mem_flatMap.mp hd
  exact (cppLink_of_mem hh hd).joins.1

lemma fileLinks_linkObjC : fileLinks (linkObjC header implementation) = headerEdges header implementation :=
  fileLinks_append_headerEdges fun _ hd => (objCLink_iff.mpr hd).joins.1

lemma fileLinks_distinctBy (links : List Dependency) :
    fileLinks (distinctBy Dependency.key links) = distinctBy Dependency.key (fileLinks links) := by
  refine filter_distinctBy (fun x y he => ?_) links
  have hk : x.kind = y.kind := congrArg Prod.fst he
  rw [hk]

lemma link_eq_distinctBy (hl : implementation.language = .objCpp) :
    link header implementation =
      distinctBy Dependency.key (linkCpp header implementation ++ linkObjC header implementation) := by
  rw [link, hl]

lemma fileLinks_link (hl : implementation.language = .objCpp) :
    fileLinks (link header implementation) =
      if header.symbols = [] ∨ implementation.symbols = [] then []
      else [.edge .implementsHeader implementation.path.text header.path.text] := by
  have happend : fileLinks (linkCpp header implementation ++ linkObjC header implementation) =
      headerEdges header implementation ++ headerEdges header implementation := by
    rw [fileLinks, List.filter_append, ← fileLinks, ← fileLinks, fileLinks_linkCpp, fileLinks_linkObjC]
  rw [link_eq_distinctBy hl, fileLinks_distinctBy, happend, headerEdges]
  by_cases h : header.symbols = [] ∨ implementation.symbols = []
  · rw [if_pos h, if_pos (by simpa using h)]
    rfl
  · rw [if_neg h, if_neg (by simpa using h)]
    simp [distinctBy]

/-- A file that is both C++ and Objective-C is linked to its header by the links of either language, each once and
where it occurs first. One of them names the files, unless one of these has no symbols. Pairing appends these links
to the file. -/
theorem objCpp_links_are_distinct_union (header implementation : Outline)
    (hl : implementation.language = .objCpp) :
    DistinctUnion (linkCpp header implementation) (linkObjC header implementation) (link header implementation) ∧
      (link header implementation).filter (·.kind == .implementsHeader) =
        (if header.symbols = [] ∨ implementation.symbols = [] then []
        else [.edge .implementsHeader implementation.path.text header.path.text]) ∧
      ∀ disk scanned files (i : ℕ), HeaderBeside disk scanned files implementation header →
        files[i]? = some implementation →
          (resolve disk scanned files)[i]? = some { implementation with
            dependencies := implementation.dependencies ++ link header implementation } := by
  refine ⟨link_eq_distinctBy hl ▸ distinctUnion_distinctBy _ _, fileLinks_link hl, ?_⟩
  intro disk scanned files i hb hi
  have hgained : gained disk files scanned implementation = link header implementation := by
    rw [gained, headerOf?_eq_some_iff.mpr hb]
  rw [resolve_eq_map, List.getElem?_map, hi, Option.map_some, hgained]

/-- A class and an interface of one name share a method, which both languages link. -/
theorem shared_method_is_linked_once :
    let draw : Symbol := ⟨"draw", .method, "void draw();", {}, "", []⟩
    let view : SymbolKind → Symbol := fun kind => ⟨"View", kind, "View", {}, "", [draw]⟩
    let header : Outline := { path := ⟨"view.h"⟩, language := .objCpp, symbols := [view .classType, view .interface] }
    let file : Outline :=
      { path := ⟨"view.mm"⟩, language := .objCpp, symbols := [view .implementation, view .structType],
        dependencies := [.ofImport "view.h" false] }
    let disk : Disk := ⟨["view.h", "view.mm"].map fun name => ([.normal name], .file ⟨[], []⟩)⟩
    let scanned := ["view.h", "view.mm"].map fun name => ScannedFile.mk ⟨name⟩ ⟨name⟩ ""
    file.language = .objCpp ∧ HeaderBeside disk scanned [header, file] file header ∧
      DistinctUnion (linkCpp header file) (linkObjC header file) (link header file) ∧
      ((resolve disk scanned [header, file])[1]?.map fun f => f.dependencies.map Dependency.key) =
        some [(.importing, "", "view.h"), (.implementsDeclaration, "View::draw", "View::draw"),
          (.implementsHeader, "view.mm", "view.h"), (.implementsDeclaration, "View", "View")] := by
  intro draw view header file disk scanned
  obtain ⟨hunion, -, hresolve⟩ := objCpp_links_are_distinct_union header file rfl
  have hheader : FoundAt scanned ⟨"view.h"⟩ ⟨"view.h"⟩ := foundAt_iff.mpr (by decide +kernel)
  have hfile : FoundAt scanned ⟨"view.mm"⟩ ⟨"view.mm"⟩ := foundAt_iff.mpr (by decide +kernel)
  have hb : HeaderBeside disk scanned [header, file] file header := by
    refine ⟨by decide, by decide +kernel, ⟨"view.mm"⟩, ⟨"view.h"⟩, hfile,
      pairedFile?_eq_some_iff.mp (by decide +kernel), [], [file], rfl, ⟨_, hheader, rfl⟩, ?_⟩
    rintro f hf ⟨b, hb, he⟩
    obtain rfl := List.mem_singleton.mp hf
    rw [foundAt_iff, foundAt_iff.mp hfile] at hb
    cases hb
    exact absurd he (by decide +kernel)
  refine ⟨rfl, hb, hunion, ?_⟩
  rw [hresolve disk scanned [header, file] 1 hb rfl]
  decide +kernel

end SourceAtlas.Pairing
