import SourceAtlas.Proofs.Extraction.Outcome
import SourceAtlas.Proofs.Merge.Symbols
import SourceAtlas.Proofs.Spans.Languages
import SourceAtlas.Proofs.Spans.Positions

namespace SourceAtlas

namespace Span

structure Fits (source : Bytes) (span : Span) : Prop where
  ordered : span.startByte ≤ span.endByte
  inside : span.endByte.toNat ≤ source.length
  start : source.Pinpoints span.startByte.toNat span.startLine span.startColumn
  stop : source.Pinpoints span.endByte.toNat span.endLine span.endColumn

def Within (inner outer : Span) : Prop := outer.startByte ≤ inner.startByte ∧ inner.endByte ≤ outer.endByte

end Span

namespace Bytes

variable {source : Bytes} {start stop : ℕ}

lemma startByte_span (h : start < UInt64.size) : (source.span start stop).startByte.toNat = start :=
  UInt64.toNat_ofNat_of_lt' h

lemma endByte_span (h : stop < UInt64.size) : (source.span start stop).endByte.toNat = stop :=
  UInt64.toNat_ofNat_of_lt' h

lemma lt_size_of_le {offset : ℕ} (h : offset ≤ source.length) (hl : source.length + 1 < UInt32.size) :
    offset < UInt64.size := by
  have hsize : UInt32.size < UInt64.size := by decide
  omega

lemma fits_span (h : start ≤ stop) (hs : stop ≤ source.length) (hl : source.length + 1 < UInt32.size) :
    (source.span start stop).Fits source := by
  have hstart : (source.span start stop).startByte.toNat = start :=
    startByte_span (lt_size_of_le (h.trans hs) hl)
  have hstop : (source.span start stop).endByte.toNat = stop := endByte_span (lt_size_of_le hs hl)
  have hbefore (offset : ℕ) : (source.take offset).length + 1 < UInt32.size :=
    lt_of_le_of_lt (Nat.succ_le_succ (List.length_take_le' offset source)) hl
  refine ⟨?_, ?_, ?_, ?_⟩
  · rwa [UInt64.le_iff_toNat_le, hstart, hstop]
  · rwa [hstop]
  · rw [hstart]
    exact pinpoints_position (hbefore start)
  · rw [hstop]
    exact pinpoints_position (hbefore stop)

lemma within_span {start' stop' : ℕ} (hstart : start ≤ start') (hle : start' ≤ stop') (hstop : stop' ≤ stop)
    (hs : stop < UInt64.size) : (source.span start' stop').Within (source.span start stop) := by
  constructor
  · rw [UInt64.le_iff_toNat_le, startByte_span (by omega), startByte_span (by omega)]
    exact hstart
  · rw [UInt64.le_iff_toNat_le, endByte_span (by omega), endByte_span hs]
    exact hstop

lemma endColumn_of_longest_line (hl : source.length = UInt32.size - 1)
    (hn : newline ∉ source) (start : ℕ) : (source.span start (UInt32.size - 1)).endColumn = 0 := by
  have hposition : source.position (UInt32.size - 1) = ⟨0, UInt32.size - 1⟩ := position_of_newline_notMem hn hl.ge
  change UInt32.ofNat (source.position (UInt32.size - 1)).column + 1 = 0
  rw [hposition]
  decide

end Bytes

namespace Place

variable {root p q : Place} {length : ℕ}

/-- All nodes lie within a source of this length, and each within the node above it. -/
def Nested (length : ℕ) (root : Place) : Prop :=
  ∀ p ∈ root.descendants, p.node.start ≤ p.node.stop ∧ p.node.stop ≤ length ∧
    ∀ q ∈ p.children, p.node.start ≤ q.node.start ∧ q.node.stop ≤ p.node.stop

instance (length : ℕ) (root : Place) : Decidable (root.Nested length) :=
  inferInstanceAs (Decidable (∀ p ∈ root.descendants, _))

lemma Nested.range_le (hn : root.Nested length) (hp : root.Holds p) (h : p.Holds q) :
    p.node.start ≤ q.node.start ∧ q.node.stop ≤ p.node.stop := by
  induction h with
  | refl => exact ⟨le_rfl, le_rfl⟩
  | tail hr hq ih =>
    obtain ⟨-, -, hchildren⟩ := hn _ (mem_descendants.mpr (hp.trans hr))
    obtain ⟨hstart, hstop⟩ := hchildren _ hq
    exact ⟨ih.1.trans hstart, hstop.trans ih.2⟩

end Place

structure Symbol.Nests (source : Bytes) (s : Symbol) : Prop where
  fits : s.span.Fits source
  members : ∀ c ∈ s.children, c.children = [] ∧ c.span.Fits source ∧ c.span.Within s.span

namespace View

variable {v : View} {p : Place} {s : Symbol}

lemma fits_of_holds (hn : v.root.Nested v.source.length) (hl : v.source.length + 1 < UInt32.size)
    (hp : v.root.Holds p) : (v.span p).Fits v.source := by
  obtain ⟨hle, hstop, -⟩ := hn p (Place.mem_descendants.mpr hp)
  exact Bytes.fits_span hle hstop hl

lemma Locates.nests (h : v.Locates s) (hn : v.root.Nested v.source.length) (hl : v.source.length + 1 < UInt32.size) :
    s.Nests v.source := by
  obtain ⟨p, hp, hs, hc⟩ := h
  refine ⟨hs ▸ fits_of_holds hn hl hp, fun c hm => ?_⟩
  obtain ⟨hleaf, q, hq, hspan⟩ := hc c hm
  refine ⟨hleaf, hspan ▸ fits_of_holds hn hl (hp.trans hq), ?_⟩
  obtain ⟨hstart, hstop⟩ := hn.range_le hp hq
  obtain ⟨-, hp_stop, -⟩ := hn p (Place.mem_descendants.mpr hp)
  obtain ⟨hq_le, -⟩ := hn q (Place.mem_descendants.mpr (hp.trans hq))
  rw [hs, hspan]
  exact Bytes.within_span hstart hq_le hstop (Bytes.lt_size_of_le hp_stop hl)

end View

def Reader.impliedPackages (path : Path) : Reader → List Symbol
  | .single .kotlin => Package.inferred Kotlin.sourceRoots path
  | .single .java => Package.inferred Java.sourceRoots path
  | _ => []

lemma SingleGrammar.emits_passes (g : SingleGrammar) (moduleName : Option String) (v : View) :
    ∀ pass ∈ g.passes moduleName,
      Pass.Emits (fun s => v.Locates s ∨ s ∈ (Reader.single g).impliedPackages v.path) v pass := by
  cases g with
  | kotlin =>
    exact List.forall_mem_cons.mpr
      ⟨Kotlin.emits_packages, Pass.emits_mono (fun _ => .inl) Kotlin.emits_afterPackages⟩
  | java =>
    exact List.forall_mem_cons.mpr
      ⟨Java.emits_packages, Pass.emits_mono (fun _ => .inl) Java.emits_afterPackages⟩
  | go => exact Pass.emits_mono (fun _ => .inl) (Go.emits_passes moduleName)
  | javaScript => exact Pass.emits_mono (fun _ => .inl) JavaScript.emits_passes
  | python => exact Pass.emits_mono (fun _ => .inl) Python.emits_passes
  | swift => exact Pass.emits_mono (fun _ => .inl) Swift.emits_passes
  | objC => exact Pass.emits_mono (fun _ => .inl) ObjC.emits_passes
  | cpp => exact Pass.emits_mono (fun _ => .inl) Cpp.emits_passes

section

variable {disk : Disk} {file : ScannedFile} {stored : StoredFile} {language : Language} {grammar : Grammar}
  {passes : List Pass}

lemma Extraction.exists_symbols_ofStored {P : Symbol → Prop}
    (h : ∀ tree, stored.tree? grammar = some tree →
      (Pass.runAll passes ⟨file.path, language, stored.content, .ofRoot tree⟩).Emits P) :
    ∃ outline, (ofStored file language grammar passes stored).outline? = some outline ∧
      ∀ s ∈ outline.symbols, P s := by
  have hnone (s : Symbol) (hs : s ∈ []) : P s := absurd hs List.not_mem_nil
  rw [ofStored]
  split
  · exact ⟨_, rfl, hnone⟩
  · split
    · exact ⟨_, rfl, hnone⟩
    · rename_i tree ht
      dsimp only
      split
      · exact ⟨_, rfl, h tree ht⟩
      · exact ⟨_, rfl, h tree ht⟩

lemma Reader.exists_located_extraction (reader : Reader) (moduleName : Option String)
    (hr : disk.read file.diskPath = .ok stored) :
    ∃ outline, (reader.extraction id moduleName disk file).outline? = some outline ∧
      ∀ s ∈ outline.symbols, s ∈ reader.impliedPackages file.path ∨
        ∃ g ∈ reader.grammars file, ∃ tree, stored.tree? g = some tree ∧
          View.Locates ⟨file.path, reader.language file, stored.content, .ofRoot tree⟩ s := by
  cases reader with
  | single g =>
    rw [extraction, List.map_id, Disk.extract, Disk.readThen, hr]
    refine Extraction.exists_symbols_ofStored fun tree ht s hs => ?_
    rcases Pass.emits_runAll (g.emits_passes moduleName _) s hs with hs | hs
    · refine .inr ⟨_, ?_, tree, ht, hs⟩
      rw [grammars_single]
      exact List.mem_singleton_self _
    · exact .inl hs
  | objCpp =>
    rw [extraction, List.map_id, List.map_id, Disk.readThen, hr]
    refine Extraction.exists_outline_combine (fun cpp objc hcpp hobjc s hs => ?_) ?_ ?_
    · rcases List.mem_append.mp (ObjCpp.mem_of_mem_mergeSymbols hs) with hs | hs
      · exact hcpp s hs
      · exact hobjc s hs
    · refine Extraction.exists_symbols_ofStored fun tree ht s hs => .inr ⟨.cpp, List.mem_cons_self, tree, ht, ?_⟩
      exact Pass.emits_runAll Cpp.emits_passes s hs
    · refine Extraction.exists_symbols_ofStored fun tree ht s hs =>
        .inr ⟨.objC, List.mem_cons_of_mem _ List.mem_cons_self, tree, ht, ?_⟩
      exact Pass.emits_runAll ObjC.emits_passes s hs

lemma Reader.exists_symbols_extraction (reader : Reader) (moduleName : Option String)
    (hr : disk.read file.diskPath = .ok stored) (hl : stored.content.length + 1 < UInt32.size)
    (hn : ∀ g ∈ reader.grammars file, ∀ tree, stored.tree? g = some tree →
      (Place.ofRoot tree).Nested stored.content.length) :
    ∃ outline, (reader.extraction id moduleName disk file).outline? = some outline ∧
      ∀ s ∈ outline.symbols, s ∈ reader.impliedPackages file.path ∨ s.Nests stored.content := by
  obtain ⟨outline, ho, hs⟩ := reader.exists_located_extraction moduleName hr
  refine ⟨outline, ho, fun s hm => (hs s hm).imp_right ?_⟩
  rintro ⟨g, hg, tree, ht, hlocates⟩
  exact hlocates.nests (hn g hg tree ht) hl

end

lemma Go.exists_package_symbol {v : View} {clause name : Place}
    (hc : v.root.childOfKind? "package_clause" = some clause)
    (hn : clause.childOfKind? "package_identifier" = some name) (moduleName : Option String) :
    ∃ s ∈ (Pass.runAll (passes moduleName) v).symbols, s.span = v.span name ∧ s.kind = .packageName := by
  have hfirst : (passes moduleName)[0]? = some packages := rfl
  rw [Pass.runAll_eq_after hfirst]
  refine ⟨v.symbol name .packageName (v.text name) ("package " ++ v.text name), ?_, rfl, rfl⟩
  apply Pass.symbols_subset_after
  apply List.mem_append_right
  simp [packages, hc, hn, Findings.ofSymbols]

/-- All symbols of an outline fit in the source, and their members fit in them, if this holds of the nodes of
the trees. Only a package that the path implies stands nowhere in the source. -/
theorem symbols_nest_if_nodes_nest (reader : Reader) (disk : Disk) (modules : GoModules) (file : ScannedFile)
    (stored : StoredFile) (hr : disk.read file.diskPath = .ok stored) (hl : stored.content.length + 1 < UInt32.size)
    (hn : ∀ g ∈ reader.grammars file, ∀ tree, stored.tree? g = some tree →
      (Place.ofRoot tree).Nested stored.content.length) :
    ∃ extraction outline,
      (reader.extractor.run disk modules file).1 = .returned extraction ∧ extraction.outline? = some outline ∧
        ∀ s ∈ outline.symbols, s ∈ reader.impliedPackages file.path ∨ s.Nests stored.content := by
  obtain ⟨outline, ho, hs⟩ :=
    reader.exists_symbols_extraction (modules.moduleFor disk file.diskPath).1 hr hl hn
  exact ⟨_, outline, reader.run_extractor disk modules file, ho, hs⟩

/-- The class has no package clause, so that its package comes from the path. -/
theorem class_and_method_nest_below_implied_package :
    let node (kind : String) (field : Option String) (start stop : ℕ) (children : List Node) : Node :=
      ⟨kind, true, field, start, stop, {}, children⟩
    let tree := node "program" none 0 24
      [node "class_declaration" none 0 24
        [node "identifier" (some "name") 6 7 [],
          node "class_body" (some "body") 8 24
            [node "method_declaration" none 11 22
              [node "identifier" (some "name") 16 17 []]]]]
    let stored : StoredFile := ⟨"class A \x7b\n void f() \x7b\x7d\n\x7d".toUTF8.data.toList, [(.java, tree)]⟩
    let disk : Disk := ⟨[([.normal "A.java"], .file stored)]⟩
    let file : ScannedFile := ⟨⟨"src/main/java/a/A.java"⟩, ⟨"A.java"⟩, "java"⟩
    ∃ extraction outline,
      (Extractor.java.run disk {} file).1 = .returned extraction ∧ extraction.outline? = some outline ∧
        outline.symbols.map (fun s => (s.name, s.children.map (·.name))) = [("a", []), ("a.A", ["f"])] ∧
        ∀ s ∈ outline.symbols, s ∈ Package.inferred Java.sourceRoots file.path ∨ s.Nests stored.content := by
  intro node tree stored disk file
  have hnames : (disk.extract file .java Java.passes).outline?.map
      (fun outline => outline.symbols.map fun s => (s.name, s.children.map (·.name))) =
        some [("a", []), ("a.A", ["f"])] := by decide +kernel
  have hn : ∀ g ∈ (Reader.single .java).grammars file, ∀ other, stored.tree? g = some other →
      (Place.ofRoot other).Nested stored.content.length := by
    intro g hg other ho
    obtain rfl := List.mem_singleton.mp hg
    obtain rfl := Option.some.inj ho
    decide +kernel
  have hr : disk.read ⟨"A.java"⟩ = .ok stored := rfl
  obtain ⟨_, outline, hrun, ho, hs⟩ := symbols_nest_if_nodes_nest (.single .java) disk {} file stored hr
    (by decide +kernel) hn
  have he := Attempt.returned.inj hrun
  refine ⟨_, outline, hrun, ho, ?_, hs⟩
  rw [← he] at ho
  exact Option.some.inj ((congrArg (Option.map _) ho).symm.trans hnames)

/-- The file is a single package clause of `UInt32.size - 1` bytes. -/
theorem package_with_longest_name_ends_in_column_zero :
    let length := UInt32.size - 1
    let node (kind : String) (start : ℕ) (children : List Node) : Node :=
      ⟨kind, true, none, start, length, {}, children⟩
    let tree := node "source_file" 0 [node "package_clause" 0 [node "package_identifier" 8 []]]
    let source : Bytes := "package ".toUTF8.data.toList ++ List.replicate (length - 8) 120
    let stored : StoredFile := ⟨source, [(.go, tree)]⟩
    let disk : Disk := ⟨[([.normal "a.go"], .file stored)]⟩
    let file : ScannedFile := ⟨⟨"a.go"⟩, ⟨"a.go"⟩, "go"⟩
    source.length < UInt32.size ∧ (Place.ofRoot tree).Nested source.length ∧
      ∃ extraction outline,
        (Extractor.go.run disk {} file).1 = .returned extraction ∧ extraction.outline? = some outline ∧
          ∃ s ∈ outline.symbols, s.kind = .packageName ∧ s.span.endColumn = 0 ∧ ¬ s.Nests source := by
  intro length node tree source stored disk file
  have hl : source.length = length := by
    rw [List.length_append, List.length_replicate]
    decide
  have hline : Bytes.newline ∉ source := by
    rw [List.mem_append, not_or]
    exact ⟨by decide, fun hm => absurd (List.eq_of_mem_replicate hm) (by decide)⟩
  have hnested : (Place.ofRoot tree).Nested length := by decide +kernel
  -- From here on only these three facts about the source are needed.
  clear_value source
  have hr : disk.read ⟨"a.go"⟩ = .ok stored := rfl
  have ht : stored.tree? (.ofFile .go file.path) = some tree := rfl
  have hs : stored.content ≠ [] := List.ne_nil_of_length_pos (hl ▸ by decide)
  obtain ⟨s, hm, hspan, hkind⟩ := Go.exists_package_symbol (v := ⟨file.path, .go, source, .ofRoot tree⟩) rfl rfl
    (GoModules.moduleFor {} disk ⟨"a.go"⟩).1
  have hzero : s.span.endColumn = 0 := by
    rw [hspan]
    exact Bytes.endColumn_of_longest_line hl hline _
  have hnot : ¬ s.Nests source := fun hs => Bytes.not_pinpoints_column_zero (hzero ▸ hs.fits.stop)
  exact ⟨hl ▸ by decide, hl ▸ hnested, _, _, SingleGrammar.run_extractor .go disk {} file,
    Disk.outline?_extract _ hr hs ht, s, hm, hkind, hzero, hnot⟩

end SourceAtlas
