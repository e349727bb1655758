import SourceAtlas.Extract.Go
import SourceAtlas.Extract.Kotlin
import SourceAtlas.Extract.Swift
import SourceAtlas.Proofs.Merge.Distinct
import SourceAtlas.Proofs.Symbols.Division

namespace SourceAtlas

open Findings

variable {v : View} {p : Place}

namespace Go

variable {m : Match}

lemma captures_of_mem_run_leaf {field kind : Option String} {name : String}
    (h : m ∈ (Pattern.node field kind (some name) []).run p) : m.captures = [(name, p)] := by
  rw [Pattern.run] at h
  split at h
  · obtain ⟨inner, hi, rfl⟩ := List.mem_map.mp h
    rw [Pattern.runAll] at hi
    obtain rfl := List.mem_singleton.mp hi
    rfl
  · cases h

lemma captures_of_mem_run_pair {kind field₁ kind₁ field₂ kind₂ : Option String} {name₁ name₂ : String}
    (h : m ∈ (Pattern.node none kind none
      [.node field₁ kind₁ (some name₁) [], .node field₂ kind₂ (some name₂) []]).run p) :
    ∃ q₁ q₂, m.captures = [(name₁, q₁), (name₂, q₂)] := by
  rw [Pattern.run] at h
  split at h
  · obtain ⟨parts, hp, rfl⟩ := List.mem_map.mp h
    rw [Pattern.runAll] at hp
    obtain ⟨⟨q₁, later⟩, -, hp⟩ := List.mem_flatMap.mp hp
    obtain ⟨first, hfirst, hp⟩ := List.mem_flatMap.mp hp
    obtain ⟨rest, hrest, rfl⟩ := List.mem_map.mp hp
    rw [Pattern.runAll] at hrest
    obtain ⟨⟨q₂, _⟩, -, hrest⟩ := List.mem_flatMap.mp hrest
    obtain ⟨second, hsecond, hrest⟩ := List.mem_flatMap.mp hrest
    obtain ⟨last, hlast, rfl⟩ := List.mem_map.mp hrest
    rw [Pattern.runAll] at hlast
    obtain rfl := List.mem_singleton.mp hlast
    refine ⟨q₁, q₂, ?_⟩
    simp only [Match.capture, Match.append, captures_of_mem_run_leaf hfirst, captures_of_mem_run_leaf hsecond,
      Option.toList_none, List.map_nil, List.nil_append, List.append_nil, List.singleton_append]
  · cases h

lemma isSome_ofMatch? (h : m ∈ v.findAll typePattern) : (TypeDefinition.ofMatch? m).isSome = true := by
  obtain ⟨p, -, hr⟩ := View.exists_run_of_mem_findAll h
  rw [typePattern, Pattern.either, Pattern.captured, Pattern.run] at hr
  split at hr
  · obtain ⟨inner, hi, rfl⟩ := List.mem_map.mp hr
    have hcaptures : ∃ name body, inner.captures = [("name", name), ("body", body)] := by
      rw [Pattern.runAny, Pattern.runAny, Pattern.runAny, List.append_nil] at hi
      rcases List.mem_append.mp hi with hi | hi
      · exact captures_of_mem_run_pair hi
      · exact captures_of_mem_run_pair hi
    obtain ⟨name, body, hc⟩ := hcaptures
    simp [TypeDefinition.ofMatch?, Match.place?, Match.capture, hc]
  · cases hr

def kindOfBody (body : Place) : SymbolKind :=
  if body.kind = "struct_type" then .structType
  else if body.kind = "interface_type" then .interface
  else .namedType

structure Describes (v : View) (d : TypeDefinition) (s : Symbol) : Prop where
  name : s.name = v.text d.name
  span : s.span = v.span d.node
  kind : s.kind = kindOfBody d.body

def aliasSymbol (v : View) (d : TypeDefinition) : Symbol :=
  v.symbol d.node .namedType (v.text d.name) ("type " ++ v.collapsed d.node) (typeDoc v d.node)

def typeSymbol (v : View) (d : TypeDefinition) : Symbol :=
  if d.body.kind = "struct_type" then structSymbol v d
  else if d.body.kind = "interface_type" then interfaceSymbol v d
  else aliasSymbol v d

lemma describes_typeSymbol (v : View) (d : TypeDefinition) : Describes v d (typeSymbol v d) := by
  unfold typeSymbol
  split
  · exact ⟨rfl, rfl, by rw [kindOfBody, if_pos ‹_›]; rfl⟩
  · split
    · exact ⟨rfl, rfl, by rw [kindOfBody, if_neg ‹_›, if_pos ‹_›]; rfl⟩
    · exact ⟨rfl, rfl, by rw [kindOfBody, if_neg ‹_›, if_neg ‹_›]; rfl⟩

def shareOf (d : TypeDefinition) : ℕ :=
  if d.body.kind = "struct_type" then 0 else if d.body.kind = "interface_type" then 1 else 2

lemma divide_typeDefinitions (v : View) (first second third : Findings) :
    Divide (typeDefinitions v) (Describes v)
      [(structs v first).symbols, (interfaces v second).symbols, (types v third).symbols] := by
  refine ⟨shareOf, typeSymbol v, fun d _ => ⟨?_, describes_typeSymbol v d⟩, ?_⟩
  · unfold shareOf
    split_ifs <;> simp
  · have hstructs : (structs v first).symbols =
        ((typeDefinitions v).filter (shareOf · == 0)).map (typeSymbol v) := by
      refine map_filter_congr (fun d _ => ?_) fun d hd => ?_
      · unfold shareOf
        split_ifs <;> simp_all
      · rw [typeSymbol, if_pos (beq_iff_eq.mp hd)]
    have hinterfaces : (interfaces v second).symbols =
        ((typeDefinitions v).filter (shareOf · == 1)).map (typeSymbol v) := by
      refine map_filter_congr (fun d _ => ?_) fun d hd => ?_
      · unfold shareOf
        split_ifs <;> simp_all
      · simp [typeSymbol, beq_iff_eq.mp hd]
    have htypes : (types v third).symbols =
        ((typeDefinitions v).filter (shareOf · == 2)).map (typeSymbol v) := by
      refine map_filter_congr (fun d _ => ?_) fun d hd => ?_
      · unfold shareOf
        split_ifs <;> simp_all [Place.isAny, Place.kind]
      · simp_all [typeSymbol, aliasSymbol, Place.isAny, Place.kind]
    rw [hstructs, hinterfaces, htypes]
    rfl

def table (moduleName : Option String) : List (Pass × List SymbolKind) :=
  [(packages, [.packageName]), (imports moduleName, []), (functions, [.function]), (methods, [.method]),
    (structs, [.structType]), (interfaces, [.interface]), (types, [.namedType]), (calls, [])]

lemma sortedByKind (v : View) (moduleName : Option String) : Pass.SortedByKind v (table moduleName) where
  emits := by
    simp only [table, List.forall_mem_cons, List.not_mem_nil, false_imp_iff, implies_true, and_true]
    refine ⟨?_, ?_, ?_, ?_, ?_, ?_, ?_, ?_⟩ <;> intro found
    · exact List.forall_mem_map.mpr fun _ _ => List.mem_singleton_self _
    · exact emits_nothing rfl
    · exact emits_ofDeclarations (List.forall_mem_map.mpr fun _ _ => List.mem_singleton_self _)
    · exact emits_ofDeclarations (List.forall_mem_map.mpr fun _ _ => List.mem_singleton_self _)
    · exact List.forall_mem_map.mpr fun _ _ => List.mem_singleton_self _
    · exact List.forall_mem_map.mpr fun _ _ => List.mem_singleton_self _
    · exact List.forall_mem_map.mpr fun _ _ => List.mem_singleton_self _
    · exact emits_nothing rfl
  disjoint := by simp [table]

lemma divide_matches (v : View) (moduleName : Option String) :
    let all := Pass.runAll (passes moduleName) v
    Divide (v.findAll typePattern) (fun m s => ∃ d, TypeDefinition.ofMatch? m = some d ∧ Describes v d s)
      [all.ofKinds [.structType], all.ofKinds [.interface], all.ofKinds [.namedType]] := by
  intro all
  have hsorted := sortedByKind v moduleName
  have hstructs : all.ofKinds [.structType] = _ := hsorted.ofKinds_runAll 4 rfl
  have hinterfaces : all.ofKinds [.interface] = _ := hsorted.ofKinds_runAll 5 rfl
  have htypes : all.ofKinds [.namedType] = _ := hsorted.ofKinds_runAll 6 rfl
  rw [hstructs, hinterfaces, htypes]
  exact (divide_typeDefinitions v _ _ _).of_filterMap fun m hm => isSome_ofMatch? hm

end Go

namespace Kotlin

/-- A symbol that reports a type of a package: under its qualified name, where it stands, and as an interface just if
it is a class by its node and an interface by its keywords. -/
structure Describes (v : View) (package : String) (p : Place) (s : Symbol) : Prop where
  name : ∃ name, declarationName? v p = some name ∧ s.name = Package.qualify package name
  span : s.span = v.span p
  interface : s.kind = .interface ↔ p.kind = "class_declaration" ∧ hasKeyword v p "interface" = true

lemma isInterface_iff :
    isInterface v p = true ↔ p.kind = "class_declaration" ∧ hasKeyword v p "interface" = true := by
  rw [isInterface, Bool.and_eq_true, beq_iff_eq]

def classKinds : List SymbolKind := [.classType, .dataClass, .sealedClass, .enumClass, .object]

lemma typeKind_mem (v : View) (p : Place) : typeKind v p ∈ classKinds := by
  unfold typeKind
  split_ifs <;> decide

def classSymbol (v : View) (package : String) (d : Place × String) : Symbol :=
  headSymbol v (typeKind v d.1) d.1 (Package.qualify package d.2) (typeMembers v d.1)

def interfaceSymbol (v : View) (package : String) (d : Place × String) : Symbol :=
  headSymbol v .interface d.1 (Package.qualify package d.2) (interfaceMethods v d.1)

lemma symbols_classes (v : View) (found : Findings) :
    (classes v found).symbols =
      ((declarations v typeKinds).filter (!isInterface v ·.1)).map (classSymbol v (Package.found found)) :=
  symbols_concat_map (fun _ => rfl) _

lemma filter_isInterface (v : View) :
    (declarations v ["class_declaration"]).filter (isInterface v ·.1) =
      (declarations v typeKinds).filter (isInterface v ·.1) := by
  rw [declarations, declarations, filter_pairs, filter_pairs]
  congr 1
  rw [Place.namedDescendants, Place.namedDescendants, List.filter_filter, List.filter_filter]
  -- Both lists now filter one walk over the tree, and no test but that for the kind differs.
  refine List.filter_congr fun q _ => ?_
  cases hi : isInterface v q with
  | false => rfl
  | true =>
    have hk : q.node.kind = "class_declaration" := (isInterface_iff.mp hi).1
    simp [Place.isAny, typeKinds, hk]

lemma symbols_interfaces (v : View) (found : Findings) :
    (interfaces v found).symbols =
      ((declarations v typeKinds).filter (isInterface v ·.1)).map (interfaceSymbol v (Package.found found)) := by
  rw [← filter_isInterface]
  exact symbols_concat_map (fun _ => rfl) _

def typeSymbol (v : View) (package : String) (d : Place × String) : Symbol :=
  if isInterface v d.1 then interfaceSymbol v package d else classSymbol v package d

lemma describes_typeSymbol (package : String) {d : Place × String} (h : d ∈ declarations v typeKinds) :
    Describes v package d.1 (typeSymbol v package d) := by
  obtain ⟨q, -, hq⟩ := List.mem_filterMap.mp h
  obtain ⟨name, hname, rfl⟩ := Option.map_eq_some_iff.mp hq
  unfold typeSymbol
  split
  · exact ⟨⟨name, hname, rfl⟩, rfl, iff_of_true rfl (isInterface_iff.mp ‹_›)⟩
  · refine ⟨⟨name, hname, rfl⟩, rfl, iff_of_false (fun hk => ?_) (mt isInterface_iff.mpr ‹_›)⟩
    have hmem := typeKind_mem v q
    rw [show typeKind v q = .interface from hk] at hmem
    exact absurd hmem (by decide)

def shareOf (v : View) (d : Place × String) : ℕ := if isInterface v d.1 then 1 else 0

lemma divide_declarations (v : View) (package : String) {first second : Findings}
    (hfirst : Package.found first = package) (hsecond : Package.found second = package) :
    Divide (declarations v typeKinds) (fun d => Describes v package d.1)
      [(classes v first).symbols, (interfaces v second).symbols] := by
  refine ⟨shareOf v, typeSymbol v package, fun d hd => ⟨?_, describes_typeSymbol package hd⟩, ?_⟩
  · unfold shareOf
    split <;> simp
  · have hclasses : (classes v first).symbols =
        ((declarations v typeKinds).filter (shareOf v · == 0)).map (typeSymbol v package) := by
      rw [symbols_classes, hfirst]
      refine map_filter_congr (fun d _ => ?_) fun d hd => ?_
      · rw [shareOf]
        cases isInterface v d.1 <;> rfl
      · rw [typeSymbol, if_neg (by simpa using hd)]
    have hinterfaces : (interfaces v second).symbols =
        ((declarations v typeKinds).filter (shareOf v · == 1)).map (typeSymbol v package) := by
      rw [symbols_interfaces, hsecond]
      refine map_filter_congr (fun d _ => ?_) fun d hd => ?_
      · rw [shareOf]
        cases isInterface v d.1 <;> rfl
      · rw [typeSymbol, if_pos hd]
    rw [hclasses, hinterfaces]
    rfl

lemma kind_of_mem_packages {found : Findings} {s : Symbol} (h : s ∈ (packages v found).symbols) :
    s.kind = .packageName := by
  simp only [packages, ofSymbols] at h
  split at h
  · rw [Package.inferred] at h
    split at h
    · cases h
    · rw [List.mem_singleton.mp h]
  · unfold declaredPackage at h
    split at h
    · cases h
    · dsimp only at h
      split at h
      · cases h
      · rw [List.mem_singleton.mp h]
        rfl

def table : List (Pass × List SymbolKind) :=
  [(packages, [.packageName]), (imports, []), (classes, classKinds), (interfaces, [.interface]),
    (functions, [.suspendFunction, .extensionFunction, .function]), (topProperties, [.property]),
    (annotations, [.annotationType]), (calls, [])]

lemma sortedByKind (v : View) : Pass.SortedByKind v table where
  emits := by
    simp only [table, List.forall_mem_cons, List.not_mem_nil, false_imp_iff, implies_true, and_true]
    refine ⟨?_, ?_, ?_, ?_, ?_, ?_, ?_, ?_⟩ <;> intro found
    · exact fun s hs => List.mem_singleton.mpr (kind_of_mem_packages hs)
    · exact emits_nothing rfl
    · rw [Emits, symbols_classes]
      exact List.forall_mem_map.mpr fun d _ => typeKind_mem v d.1
    · rw [Emits, symbols_interfaces]
      exact List.forall_mem_map.mpr fun _ _ => List.mem_singleton_self _
    · refine emits_ofDeclarations (List.forall_mem_map.mpr fun d _ => ?_)
      change functionKind v d.1 ∈ _
      unfold functionKind
      split_ifs <;> decide
    · exact forall_mem_filterMap_map fun _ _ _ => List.mem_singleton_self _
    · intro s hs
      obtain ⟨usage, -, rfl⟩ := List.mem_map.mp (mem_of_mem_distinctBy hs)
      exact List.mem_singleton_self _
    · exact emits_nothing rfl
  disjoint := by simp [table, classKinds]

lemma found_runAll_take (v : View) (n : ℕ) :
    Package.found (Pass.runAll ((table.take (n + 1)).map Prod.fst) v) = Package.found (Pass.runAll passes v) := by
  have hfirst := ((sortedByKind v).take (n + 1)).ofKinds_runAll 0 rfl
  have hall := (sortedByKind v).ofKinds_runAll 0 rfl
  rw [Package.found, Package.found, firstNamed?_eq_head?, firstNamed?_eq_head?]
  exact congrArg (fun symbols => (symbols.head?.map Symbol.name).getD "") (hfirst.trans hall.symm)

lemma divide_types (v : View) :
    let all := Pass.runAll passes v
    ∃ items, v.root.Enumerates (fun p => p.isAny typeKinds = true ∧ (declarationName? v p).isSome = true) items ∧
      Divide items (Describes v (Package.found all)) [all.ofKinds classKinds, all.ofKinds [.interface]] := by
  intro all
  refine ⟨_, Place.enumerates_namedDescendants _ _ _, ?_⟩
  have hclasses : all.ofKinds classKinds = _ := (sortedByKind v).ofKinds_runAll 2 rfl
  have hinterfaces : all.ofKinds [.interface] = _ := (sortedByKind v).ofKinds_runAll 3 rfl
  rw [hclasses, hinterfaces]
  -- Both passes qualify names with the package that the whole run finds: only the first pass finds packages.
  exact (divide_declarations v _ (found_runAll_take v 1) (found_runAll_take v 2)).of_pairs

end Kotlin

namespace Swift

lemma mem_keywords {word : String} (h : keyword? p = some word) : word ∈ keywords := by
  unfold keyword? at h
  split at h
  · split at h
    · rw [← Option.some.inj h]
      exact List.contains_iff_mem.mp ‹_›
    · cases h
  · obtain ⟨child, hchild, rfl⟩ := Option.map_eq_some_iff.mp h
    have htest := List.find?_some hchild
    rw [Bool.and_eq_true] at htest
    exact List.contains_iff_mem.mp htest.2

def kindOf (word : String) : SymbolKind :=
  if word = "struct" then .structType
  else if word = "enum" then .enumType
  else if word = "extension" then .extension
  else .classType

def reportedName (kind : SymbolKind) (name : String) : String :=
  if kind = .extension then "extension_" ++ name else name

structure Describes (v : View) (p : Place) (s : Symbol) : Prop where
  span : s.span = v.span p
  kind : (keyword? p).map kindOf = some s.kind
  name : ∃ name, typeName? v p = some name ∧ s.name = reportedName s.kind name

def declared (v : View) : List (Place × String) :=
  (declarations v "class_declaration").filter fun d => (keyword? d.1).isSome

lemma declared_eq (v : View) :
    declared v = ((v.root.namedDescendants ["class_declaration"]).filter fun p => (keyword? p).isSome).filterMap
      fun p => (typeName? v p).map (p, ·) :=
  filter_pairs _ (fun p => (keyword? p).isSome) _

def wordOf (d : Place × String) : String := (keyword? d.1).getD ""

def typeSymbol (v : View) (d : Place × String) : Symbol :=
  headSymbol v (kindOf (wordOf d)) d.1 (reportedName (kindOf (wordOf d)) d.2) (members v d.1)

lemma describes_typeSymbol {d : Place × String} (h : d ∈ declared v) : Describes v d.1 (typeSymbol v d) := by
  obtain ⟨hd, hk⟩ := List.mem_filter.mp h
  obtain ⟨q, -, hq⟩ := List.mem_filterMap.mp hd
  obtain ⟨name, hname, rfl⟩ := Option.map_eq_some_iff.mp hq
  obtain ⟨word, hword⟩ := Option.isSome_iff_exists.mp hk
  refine ⟨rfl, ?_, name, hname, rfl⟩
  rw [show (typeSymbol v (q, name)).kind = kindOf ((keyword? q).getD "") from rfl, hword]
  rfl

def shareOf (word : String) : ℕ :=
  if word = "struct" then 1 else if word = "enum" then 2 else if word = "extension" then 3 else 0

def sharedBy (v : View) (i : ℕ) : List (Place × String) := (declared v).filter fun d => shareOf (wordOf d) == i

lemma map_declaredWith {words : List String} {i : ℕ} {symbol : Place × String → Symbol}
    (hw : ∀ word ∈ keywords, words.contains word = (shareOf word == i))
    (hs : ∀ d, wordOf d ∈ words → symbol d = typeSymbol v d) :
    (declaredWith v words).map symbol = (sharedBy v i).map (typeSymbol v) := by
  rw [sharedBy, declared, List.filter_filter]
  refine map_filter_congr (fun d _ => ?_) fun d hd => hs d ?_
  · cases hk : keyword? d.1 with
    | none => simp [hk]
    | some word => simpa [wordOf, hk] using hw word (mem_keywords hk)
  · obtain ⟨word, hk, hmem⟩ := (Option.any_eq_true ..).mp hd
    rw [wordOf, hk]
    exact List.contains_iff_mem.mp hmem

lemma symbols_typePass {words : List String} {kind : SymbolKind} {i : ℕ}
    (hw : ∀ word ∈ keywords, words.contains word = (shareOf word == i)) (hk : ∀ word ∈ words, kindOf word = kind)
    (he : kind ≠ .extension) (found : Findings) :
    (typePass words kind v found).symbols = (sharedBy v i).map (typeSymbol v) := by
  refine (symbols_concat_map (fun _ => rfl) _).trans (map_declaredWith hw fun d hd => ?_)
  rw [typeSymbol, hk _ hd, reportedName, if_neg he]

lemma symbols_classes (found : Findings) : (classes v found).symbols = (sharedBy v 0).map (typeSymbol v) :=
  symbols_typePass (by decide) (by decide) (by decide) found

lemma symbols_structs (found : Findings) : (structs v found).symbols = (sharedBy v 1).map (typeSymbol v) :=
  symbols_typePass (by decide) (by decide) (by decide) found

lemma symbols_enums (found : Findings) : (enums v found).symbols = (sharedBy v 2).map (typeSymbol v) :=
  symbols_typePass (by decide) (by decide) (by decide) found

lemma symbols_extensions (found : Findings) : (extensions v found).symbols = (sharedBy v 3).map (typeSymbol v) := by
  refine (symbols_concat_map (fun _ => rfl) _).trans (map_declaredWith (by decide) fun d hd => ?_)
  rw [typeSymbol, List.mem_singleton.mp hd]
  rfl

lemma divide_declared (v : View) (first second third fourth : Findings) :
    Divide (declared v) (fun d => Describes v d.1)
      [(classes v first).symbols, (structs v second).symbols, (enums v third).symbols,
        (extensions v fourth).symbols] := by
  refine ⟨fun d => shareOf (wordOf d), typeSymbol v, fun d hd => ⟨?_, describes_typeSymbol hd⟩, ?_⟩
  · dsimp only
    unfold shareOf
    split_ifs <;> simp
  · rw [symbols_classes, symbols_structs, symbols_enums, symbols_extensions]
    rfl

def table : List (Pass × List SymbolKind) :=
  [(imports, []), (classes, [.classType]), (structs, [.structType]), (enums, [.enumType]), (protocols, [.protocol]),
    (extensions, [.extension]), (functions, [.function]), (properties, [.property, .propertyObserver]), (calls, [])]

lemma emits_typeFindings_kind {kind : SymbolKind} {items : List (Place × String)}
    {name : Place × String → String} {edges : Place × String → List Dependency} :
    (concat (items.map fun d => typeFindings v kind d.1 (name d) (edges d))).Emits (·.kind ∈ [kind]) :=
  emits_concat (List.forall_mem_map.mpr fun _ _ => List.forall_mem_singleton.mpr (List.mem_singleton_self _))

lemma sortedByKind (v : View) : Pass.SortedByKind v table where
  emits := by
    simp only [table, List.forall_mem_cons, List.not_mem_nil, false_imp_iff, implies_true, and_true]
    refine ⟨?_, fun _ => emits_typeFindings_kind, fun _ => emits_typeFindings_kind,
      fun _ => emits_typeFindings_kind, fun _ => emits_typeFindings_kind, fun _ => emits_typeFindings_kind,
      ?_, ?_, ?_⟩ <;> intro found
    · exact emits_nothing rfl
    · exact emits_ofDeclarations (forall_mem_filterMap_map fun _ _ _ => List.mem_singleton_self _)
    · refine forall_mem_filterMap_map fun q _ _ => ?_
      change propertyKind v q ∈ _
      unfold propertyKind
      split <;> decide
    · exact emits_nothing rfl
  disjoint := by simp [table]

lemma divide_types (v : View) :
    let all := Pass.runAll passes v
    ∃ items,
      v.root.Enumerates (fun p => p.kind = "class_declaration" ∧ (keyword? p).isSome = true ∧
        (typeName? v p).isSome = true) items ∧
      Divide items (Describes v)
        [all.ofKinds [.classType], all.ofKinds [.structType], all.ofKinds [.enumType], all.ofKinds [.extension]] := by
  intro all
  have hclasses : all.ofKinds [.classType] = _ := (sortedByKind v).ofKinds_runAll 1 rfl
  have hstructs : all.ofKinds [.structType] = _ := (sortedByKind v).ofKinds_runAll 2 rfl
  have henums : all.ofKinds [.enumType] = _ := (sortedByKind v).ofKinds_runAll 3 rfl
  have hextensions : all.ofKinds [.extension] = _ := (sortedByKind v).ofKinds_runAll 5 rfl
  have hdivide := divide_declared v
  rw [declared_eq] at hdivide
  rw [hclasses, hstructs, henums, hextensions]
  refine ⟨_, ?_, (hdivide _ _ _ _).of_pairs⟩
  rw [List.filter_filter]
  refine (Place.enumerates_namedDescendants _ _ _).congr fun p => ?_
  simp [Place.isAny, Place.kind, and_comm]

end Swift

/-- In each language a run divides the declarations of types among the symbols of types: each declaration gives one
symbol, of one of the kinds, and these symbols come from nothing else. -/
theorem type_declarations_are_divided_among_passes (v : View) (moduleName : Option String) :
    (let all := Pass.runAll (Go.passes moduleName) v
     Divide (v.findAll Go.typePattern)
       (fun m s => ∃ d, Go.TypeDefinition.ofMatch? m = some d ∧ Go.Describes v d s)
       [all.ofKinds [.structType], all.ofKinds [.interface], all.ofKinds [.namedType]] ∧
     (all.ofKinds [.structType]).length + (all.ofKinds [.interface]).length + (all.ofKinds [.namedType]).length =
       (v.findAll Go.typePattern).length) ∧
    (let all := Pass.runAll Kotlin.passes v
     ∃ items,
       v.root.Enumerates (fun p => p.isAny Kotlin.typeKinds = true ∧
         (Kotlin.declarationName? v p).isSome = true) items ∧
       Divide items (Kotlin.Describes v (Package.found all))
         [all.ofKinds Kotlin.classKinds, all.ofKinds [.interface]]) ∧
    (let all := Pass.runAll Swift.passes v
     ∃ items,
       v.root.Enumerates (fun p => p.kind = "class_declaration" ∧ (Swift.keyword? p).isSome = true ∧
         (Swift.typeName? v p).isSome = true) items ∧
       Divide items (Swift.Describes v)
         [all.ofKinds [.classType], all.ofKinds [.structType], all.ofKinds [.enumType],
           all.ofKinds [.extension]]) := by
  refine ⟨⟨Go.divide_matches v moduleName, ?_⟩, Kotlin.divide_types v, Swift.divide_types v⟩
  have hlength := (Go.divide_matches v moduleName).length_flatten
  simpa [Nat.add_assoc] using hlength

/-- An object stays an object, whatever a comment between its modifiers adds to its keywords. -/
theorem object_with_interface_keyword_is_no_interface :
    let modifiers : Node := ⟨"modifiers", true, none, 0, 28, {},
      [⟨"visibility_modifier", true, none, 0, 7, {}, [⟨"private", false, none, 0, 7, {}, []⟩]⟩,
        ⟨"block_comment", true, none, 8, 23, {}, []⟩,
        ⟨"class_modifier", true, none, 24, 28, {}, [⟨"data", false, none, 24, 28, {}, []⟩]⟩]⟩
    let object : Node := ⟨"object_declaration", true, none, 0, 39, {},
      [modifiers, ⟨"object", false, none, 29, 35, {}, []⟩, ⟨"identifier", true, some "name", 36, 39, {}, []⟩]⟩
    let v : View := ⟨⟨"Foo.kt"⟩, .kotlin, "private /* interface */ data object Foo\n".toUTF8.data.toList,
      .ofRoot ⟨"source_file", true, none, 0, 40, {}, [object]⟩⟩
    (∃ p ∈ v.root.namedDescendants Kotlin.typeKinds, Kotlin.declarationName? v p = some "Foo" ∧
      Kotlin.hasKeyword v p "interface" = true) ∧
      (Pass.runAll Kotlin.passes v).symbols.map (·.kind) = [.object] := by
  decide +kernel

end SourceAtlas
