import SourceAtlas.Pairing
import SourceAtlas.Proofs.List.Search
import SourceAtlas.Proofs.Signature.Methods

namespace SourceAtlas

namespace SymbolKind

lemma isFunctionDefinition_iff (kind : SymbolKind) :
    kind.isFunctionDefinition = true ↔ kind ∈ [function, staticFunction, inlineFunction] := by
  cases kind <;> decide

lemma isClassLike_iff (kind : SymbolKind) : kind.isClassLike = true ↔ kind ∈ [classType, structType] := by
  cases kind <;> decide

end SymbolKind

namespace Pairing

variable {header implementation : Outline} {declared defined owner member : Symbol} {d : Dependency}

def memberLink (owner member : String) : Dependency :=
  implementsEdge (qualified owner member) (qualified owner member)

def FunctionLink (header implementation : Outline) (d : Dependency) : Prop :=
  ∃ declared ∈ header.symbols, declared.kind = .functionDeclaration ∧
    ∃ defined ∈ implementation.symbols,
      defined.kind ∈ [SymbolKind.function, .staticFunction, .inlineFunction] ∧ defined.name = declared.name ∧
        Signature.agree declared.signature.toList defined.signature.toList = true ∧
        d = implementsEdge defined.name declared.name

def BodyLink (header implementation : Outline) (d : Dependency) : Prop :=
  ∃ declared ∈ header.symbols, declared.kind ∈ [SymbolKind.classType, .structType] ∧
    ∃ defined ∈ implementation.symbols,
      defined.kind ∈ [SymbolKind.classType, .structType] ∧ defined.name = declared.name ∧
        ∃ method ∈ declared.children, method.kind.isMethod = true ∧
          (∃ body ∈ defined.children, body.kind.isMethod = true ∧ body.name = method.name) ∧
          d = memberLink declared.name method.name

def OutOfClassLink (header implementation : Outline) (d : Dependency) : Prop :=
  ∃ declared ∈ header.symbols, declared.kind ∈ [SymbolKind.classType, .structType] ∧
    ∃ defined ∈ implementation.symbols, defined.kind ∈ [SymbolKind.function, .inlineFunction] ∧
      ∃ member ∈ declared.children,
        Signature.Defines declared.name.toList member.name.toList defined.signature.toList ∧
        d = memberLink declared.name member.name

def InterfaceOf (header : Outline) (defined declared : Symbol) : Prop :=
  FirstWith (fun s => s.kind ∈ [SymbolKind.interface, .category] ∧ s.name = defined.name) header.symbols declared

def BlockLink (header implementation : Outline) (d : Dependency) : Prop :=
  ∃ defined ∈ implementation.symbols, defined.kind = .implementation ∧
    ∃ declared, InterfaceOf header defined declared ∧ d = implementsEdge defined.name declared.name

def SelectorLink (header implementation : Outline) (d : Dependency) : Prop :=
  ∃ defined ∈ implementation.symbols, defined.kind = .implementation ∧
    ∃ declared, InterfaceOf header defined declared ∧
      ∃ method ∈ defined.children, (∃ m ∈ declared.children, m.kind = .method ∧ m.name = method.name) ∧
        d = memberLink declared.name method.name

lemma mem_functionEdges :
    d ∈ functionEdges declared implementation ↔
      declared.kind = .functionDeclaration ∧
        ∃ defined ∈ implementation.symbols,
          defined.kind ∈ [SymbolKind.function, .staticFunction, .inlineFunction] ∧ defined.name = declared.name ∧
            Signature.agree declared.signature.toList defined.signature.toList = true ∧
            d = implementsEdge defined.name declared.name := by
  rw [functionEdges]
  split
  · rename_i hk
    simp only [List.mem_map, List.mem_filter, Bool.and_eq_true, beq_iff_eq, hk, true_and, and_assoc,
      SymbolKind.isFunctionDefinition_iff, eq_comm (a := d)]
  · rename_i hk
    exact iff_of_false List.not_mem_nil fun h => hk h.1

lemma mem_memberEdges (hn : defined.name = declared.name) :
    d ∈ memberEdges declared defined ↔
      ∃ method ∈ declared.children, method.kind.isMethod = true ∧
        (∃ body ∈ defined.children, body.kind.isMethod = true ∧ body.name = method.name) ∧
        d = memberLink declared.name method.name := by
  simp only [memberEdges, List.mem_filterMap, List.mem_filter, Option.map_eq_some_iff, and_assoc]
  refine exists_congr fun method => and_congr_right fun _ => and_congr_right fun _ => ?_
  constructor
  · rintro ⟨body, hf, rfl⟩
    have hbody := List.find?_some hf
    rw [Bool.and_eq_true, beq_iff_eq] at hbody
    exact ⟨⟨body, List.mem_of_find?_eq_some hf, hbody⟩, by rw [hbody.2, hn, memberLink]⟩
  · rintro ⟨⟨body, hm, hkind, hname⟩, rfl⟩
    obtain ⟨found, -, hf, hfound⟩ :=
      exists_find?_of_mem (p := fun m => m.kind.isMethod && m.name == method.name) hm (by simp [hkind, hname])
    rw [Bool.and_eq_true, beq_iff_eq] at hfound
    exact ⟨found, hf, by rw [hfound.2, hn, memberLink]⟩

lemma mem_outOfClassEdges :
    d ∈ outOfClassEdges declared defined ↔
      ∃ member ∈ declared.children,
        Signature.methodOf? declared.name.toList defined.signature.toList = some member.name.toList ∧
        d = memberLink declared.name member.name := by
  rw [outOfClassEdges]
  cases Signature.methodOf? declared.name.toList defined.signature.toList with
  | none => simp
  | some method =>
    have hname (s : Symbol) : s.name = String.ofList method ↔ method = s.name.toList := by
      rw [String.ext_iff, String.toList_ofList, eq_comm]
    have hany : declared.children.any (·.name == String.ofList method) = true ↔
        ∃ member ∈ declared.children, method = member.name.toList := by
      simp only [List.any_eq_true, beq_iff_eq, hname]
    simp only [Option.some.injEq]
    split
    · rename_i h
      obtain ⟨member, hm, rfl⟩ := hany.mp h
      simp only [List.mem_singleton, String.ofList_toList, memberLink]
      constructor
      · rintro rfl
        exact ⟨member, hm, rfl, rfl⟩
      · rintro ⟨other, -, ho, rfl⟩
        rw [String.ext_iff.mpr ho]
    · rename_i h
      refine iff_of_false List.not_mem_nil ?_
      rintro ⟨member, hm, hs, -⟩
      exact h (hany.mpr ⟨member, hm, hs⟩)

lemma mem_classEdges :
    d ∈ classEdges declared implementation ↔
      declared.kind ∈ [SymbolKind.classType, .structType] ∧
        ((∃ defined ∈ implementation.symbols,
          (defined.kind ∈ [SymbolKind.classType, .structType] ∧ defined.name = declared.name) ∧
            d ∈ memberEdges declared defined) ∨
        ∃ defined ∈ implementation.symbols, defined.kind ∈ [SymbolKind.function, .inlineFunction] ∧
          d ∈ outOfClassEdges declared defined) := by
  rw [classEdges]
  split
  · rename_i hk
    have hk := (SymbolKind.isClassLike_iff _).mp hk
    simp only [List.mem_append, List.mem_flatMap, List.mem_filter, Bool.and_eq_true, beq_iff_eq,
      SymbolKind.isClassLike_iff, decide_eq_true_eq, hk, true_and, and_assoc, List.mem_cons, List.not_mem_nil,
      or_false]
  · rename_i hk
    exact iff_of_false List.not_mem_nil fun h => hk ((SymbolKind.isClassLike_iff _).mpr h.1)

lemma mem_blockEdges :
    d ∈ blockEdges header defined ↔
      ∃ declared, InterfaceOf header defined declared ∧
        (d = implementsEdge defined.name declared.name ∨
          ∃ method ∈ defined.children, (∃ m ∈ declared.children, m.kind = .method ∧ m.name = method.name) ∧
            d = memberLink declared.name method.name) := by
  have hfirst (s : Symbol) : InterfaceOf header defined s ↔
      header.symbols.find? (fun s => (s.kind == .interface || s.kind == .category) && s.name == defined.name) =
        some s :=
    firstWith_iff_find? fun s => by simp
  rw [blockEdges]
  split
  · rename_i hn
    refine iff_of_false List.not_mem_nil ?_
    rintro ⟨declared, hd, -⟩
    rw [(hfirst declared).mp hd] at hn
    cases hn
  · rename_i declared hd
    have hname : defined.name = declared.name := by
      have h := List.find?_some hd
      rw [Bool.and_eq_true, beq_iff_eq] at h
      exact h.2.symm
    have hunique : ∀ s, InterfaceOf header defined s ↔ s = declared := fun s => by
      rw [hfirst, hd, Option.some.injEq, eq_comm]
    simp only [hunique, exists_eq_left, List.mem_cons, List.mem_map, List.mem_filter, List.any_eq_true,
      Bool.and_eq_true, beq_iff_eq, and_assoc, memberLink, hname, eq_comm (a := d)]

def CppLink (header implementation : Outline) (d : Dependency) : Prop :=
  FunctionLink header implementation d ∨ BodyLink header implementation d ∨ OutOfClassLink header implementation d

def ObjCLink (header implementation : Outline) (d : Dependency) : Prop :=
  BlockLink header implementation d ∨ SelectorLink header implementation d

def Joins (header implementation : Outline) (d : Dependency) : Prop :=
  d.kind = .implementsDeclaration ∧ header.symbols ≠ [] ∧ implementation.symbols ≠ []

lemma CppLink.joins (h : CppLink header implementation d) : Joins header implementation d := by
  rcases h with ⟨_, hh, -, _, hi, -, -, -, rfl⟩ | ⟨_, hh, -, _, hi, -, -, _, -, -, -, rfl⟩ |
    ⟨_, hh, -, _, hi, -, _, -, -, rfl⟩ <;>
  exact ⟨rfl, List.ne_nil_of_mem hh, List.ne_nil_of_mem hi⟩

lemma ObjCLink.joins (h : ObjCLink header implementation d) : Joins header implementation d := by
  rcases h with ⟨_, hi, -, _, hh, rfl⟩ | ⟨_, hi, -, _, hh, _, -, -, rfl⟩ <;>
  exact ⟨rfl, List.ne_nil_of_mem hh.mem, List.ne_nil_of_mem hi⟩

/-- Links, each of which has a meaning, with the one between the files behind them; none at all if one of the
files has no symbols. -/
structure EndsInFileLink (Meaning : Dependency → Prop) (header implementation : Outline)
    (links : List Dependency) : Prop where
  nothing : header.symbols = [] ∨ implementation.symbols = [] → links = []
  last : header.symbols ≠ [] → implementation.symbols ≠ [] →
    ∃ others, links = others ++ [.edge .implementsHeader implementation.path.text header.path.text] ∧
      ∀ d ∈ others, d.kind = .implementsDeclaration ∧ Meaning d

lemma endsInFileLink {Meaning : Dependency → Prop} {others : List Dependency}
    (hm : ∀ d ∈ others, Meaning d) (hj : ∀ d, Meaning d → Joins header implementation d) :
    EndsInFileLink Meaning header implementation (others ++ headerEdges header implementation) := by
  refine ⟨fun h => ?_, fun hh hi => ⟨others, ?_, fun d hd => ⟨(hj d (hm d hd)).1, hm d hd⟩⟩⟩
  · have hothers : others = [] := by
      refine List.eq_nil_iff_forall_not_mem.mpr fun d hd => ?_
      obtain ⟨-, hh, hi⟩ := hj d (hm d hd)
      exact h.elim hh hi
    rw [hothers, headerEdges, if_pos (by simpa using h)]
    rfl
  · rw [headerEdges, if_neg (by simp [hh, hi])]

lemma cppLink_of_mem (hd : declared ∈ header.symbols)
    (h : d ∈ functionEdges declared implementation ++ classEdges declared implementation) :
    CppLink header implementation d := by
  rcases List.mem_append.mp h with h | h
  · exact .inl ⟨declared, hd, mem_functionEdges.mp h⟩
  · obtain ⟨hk, ⟨defined, hi, ⟨hkind, hname⟩, h⟩ | ⟨defined, hi, hkind, h⟩⟩ := mem_classEdges.mp h
    · exact .inr (.inl ⟨declared, hd, hk, defined, hi, hkind, hname, (mem_memberEdges hname).mp h⟩)
    · obtain ⟨member, hm, hs, he⟩ := mem_outOfClassEdges.mp h
      exact .inr (.inr ⟨declared, hd, hk, defined, hi, hkind, member, hm, Signature.defines_of_methodOf? hs, he⟩)

lemma mem_linkCpp_of_mem (hd : declared ∈ header.symbols)
    (h : d ∈ functionEdges declared implementation ++ classEdges declared implementation) :
    d ∈ linkCpp header implementation :=
  List.mem_append_left _ (List.mem_flatMap.mpr ⟨declared, hd, h⟩)

lemma FunctionLink.mem_linkCpp (h : FunctionLink header implementation d) : d ∈ linkCpp header implementation := by
  obtain ⟨declared, hd, h⟩ := h
  exact mem_linkCpp_of_mem hd (List.mem_append_left _ (mem_functionEdges.mpr h))

lemma BodyLink.mem_linkCpp (h : BodyLink header implementation d) : d ∈ linkCpp header implementation := by
  obtain ⟨declared, hd, hk, defined, hi, hkind, hname, h⟩ := h
  refine mem_linkCpp_of_mem hd (List.mem_append_right _ (mem_classEdges.mpr ⟨hk, .inl ?_⟩))
  exact ⟨defined, hi, ⟨hkind, hname⟩, (mem_memberEdges hname).mpr h⟩

lemma objCLink_iff :
    ObjCLink header implementation d ↔
      d ∈ (implementation.symbols.filter (·.kind == .implementation)).flatMap (blockEdges header) := by
  simp only [List.mem_flatMap, List.mem_filter, beq_iff_eq, mem_blockEdges, and_assoc]
  constructor
  · rintro (⟨defined, hi, hk, declared, hd, h⟩ | ⟨defined, hi, hk, declared, hd, h⟩)
    · exact ⟨defined, hi, hk, declared, hd, .inl h⟩
    · exact ⟨defined, hi, hk, declared, hd, .inr h⟩
  · rintro ⟨defined, hi, hk, declared, hd, h | h⟩
    · exact .inl ⟨defined, hi, hk, declared, hd, h⟩
    · exact .inr ⟨defined, hi, hk, declared, hd, h⟩

/-- Every link but the last stands for a declaration and what implements it, and of all that there can be only a
definition out of class may go without its link. -/
theorem links_name_declarations_and_implementations (header implementation : Outline) :
    (EndsInFileLink (CppLink header implementation) header implementation (linkCpp header implementation) ∧
      ∀ d, FunctionLink header implementation d ∨ BodyLink header implementation d →
        d ∈ linkCpp header implementation) ∧
    EndsInFileLink (ObjCLink header implementation) header implementation (linkObjC header implementation) ∧
      ∀ d, ObjCLink header implementation d → d ∈ linkObjC header implementation := by
  refine ⟨⟨endsInFileLink (fun d hd => ?_) (fun d => CppLink.joins), fun d hd => ?_⟩,
    endsInFileLink (fun d hd => objCLink_iff.mpr hd) (fun d => ObjCLink.joins), fun d hd => ?_⟩
  · obtain ⟨declared, hh, hd⟩ := List.mem_flatMap.mp hd
    exact cppLink_of_mem hh hd
  · exact hd.elim FunctionLink.mem_linkCpp BodyLink.mem_linkCpp
  · exact List.mem_append_left _ (objCLink_iff.mp hd)

/-- A function that defines a member of a class out of class: the scope of the class and the name of the member
stand between its result and its parameters. -/
structure DefinesOutOfClass (owner member defined : Symbol) (result : List Char) : Prop where
  owner_kind : owner.kind ∈ [SymbolKind.classType, .structType]
  owner_name : Signature.isIdentifier owner.name.toList = true
  declares : member ∈ owner.children
  member_name : Signature.isIdentifier member.name.toList = true
  defined_kind : defined.kind ∈ [SymbolKind.function, .inlineFunction]
  result_closed : '(' ∉ result
  written : ∃ parameters tail, defined.signature.toList =
    result ++ ' ' :: (owner.name.toList ++ [':', ':'] ++ (member.name.toList ++
      '(' :: (parameters ++ ')' :: tail)))

lemma DefinesOutOfClass.link_iff {result : List Char} (h : DefinesOutOfClass owner member defined result) :
    memberLink owner.name member.name ∈ outOfClassEdges owner defined ↔
      ¬ Signature.Mentions owner.name.toList result := by
  obtain ⟨parameters, tail, hs⟩ := h.written
  rw [← Signature.methodOf?_definition h.owner_name h.member_name h.result_closed (parameters ++ ')' :: tail), ← hs,
    mem_outOfClassEdges]
  constructor
  · rintro ⟨other, -, hm, he⟩
    have hsame : member.name = other.name := by
      have htarget := congrArg Dependency.target he
      simpa [memberLink, implementsEdge, Dependency.edge, qualified, String.append_right_inj] using htarget
    rw [hm, hsame]
  · exact fun hm => ⟨member, h.declares, hm, rfl⟩

/-- A definition out of class is linked to the member that it defines exactly if its result does not mention the
scope of the class. -/
theorem definition_is_linked_unless_result_mentions_owner (header implementation : Outline)
    (owner member defined : Symbol) (result : List Char) (ho : owner ∈ header.symbols)
    (hd : defined ∈ implementation.symbols) (h : DefinesOutOfClass owner member defined result) :
    (memberLink owner.name member.name ∈ outOfClassEdges owner defined ↔
      ¬ Signature.Mentions owner.name.toList result) ∧
    (¬ Signature.Mentions owner.name.toList result →
      memberLink owner.name member.name ∈ linkCpp header implementation) := by
  refine ⟨h.link_iff, fun hn => mem_linkCpp_of_mem ho (List.mem_append_right _ (mem_classEdges.mpr ?_))⟩
  exact ⟨h.owner_kind, .inr ⟨defined, hd, h.defined_kind, h.link_iff.mpr hn⟩⟩

/-- The result belongs to another class, whose name only ends like the owner's; a parameter belongs to the
owner. -/
theorem definition_with_result_of_longer_name_is_linked :
    let mode : Symbol := ⟨"mode", .method, "MyWidget::Mode mode(Mode m) const;", {}, "", []⟩
    let widget : Symbol := ⟨"Widget", .structType, "struct Widget", {}, "", [mode]⟩
    let defined : Symbol :=
      ⟨"mode", .inlineFunction, "inline MyWidget::Mode Widget::mode(Widget::Mode m) const", {}, "", []⟩
    let header : Outline := { path := ⟨"widget.h"⟩, language := .cpp, symbols := [widget] }
    let implementation : Outline := { path := ⟨"widget.cpp"⟩, language := .cpp, symbols := [defined] }
    DefinesOutOfClass widget mode defined "inline MyWidget::Mode".toList ∧
      ¬ Signature.Mentions "Widget".toList "inline MyWidget::Mode".toList ∧
      memberLink "Widget" "mode" ∈ linkCpp header implementation := by
  intro mode widget defined header implementation
  have h : DefinesOutOfClass widget mode defined "inline MyWidget::Mode".toList :=
    ⟨by decide, by decide +kernel, List.mem_singleton_self mode, by decide +kernel, by decide, by decide +kernel,
      "Widget::Mode m".toList, " const".toList, by decide +kernel⟩
  have hn : ¬ Signature.Mentions "Widget".toList "inline MyWidget::Mode".toList :=
    (Signature.not_mentions_iff (by decide +kernel)).mpr (by decide +kernel)
  have hlinked := definition_is_linked_unless_result_mentions_owner header implementation widget mode defined
    "inline MyWidget::Mode".toList (List.mem_singleton_self widget) (List.mem_singleton_self defined) h
  exact ⟨h, hn, hlinked.2 hn⟩

/-- A result that is nested in the owner hides the definition: `Mode Widget::mode` is read as its name. -/
theorem definition_with_result_nested_in_owner_is_not_linked :
    let mode : Symbol := ⟨"mode", .method, "Mode mode() const;", {}, "", []⟩
    let widget : Symbol := ⟨"Widget", .classType, "class Widget", {}, "", [mode]⟩
    let defined : Symbol := ⟨"mode", .function, "Widget::Mode Widget::mode() const", {}, "", []⟩
    let header : Outline := { path := ⟨"widget.h"⟩, language := .cpp, symbols := [widget] }
    let implementation : Outline := { path := ⟨"widget.cpp"⟩, language := .cpp, symbols := [defined] }
    DefinesOutOfClass widget mode defined "Widget::Mode".toList ∧
      memberLink "Widget" "mode" ∉ linkCpp header implementation := by
  intro mode widget defined header implementation
  refine ⟨⟨by decide, by decide +kernel, List.mem_singleton_self mode, by decide +kernel, by decide,
    by decide +kernel, [], " const".toList, by decide +kernel⟩, by decide +kernel⟩

end Pairing

end SourceAtlas
