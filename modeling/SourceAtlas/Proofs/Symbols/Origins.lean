import SourceAtlas.Proofs.Calls.Languages
import SourceAtlas.Proofs.Spans.Languages
import SourceAtlas.Proofs.Tree.Addresses

namespace SourceAtlas

lemma Place.parent?_of_mem_children {p q : Place} (h : q ∈ p.children) : q.parent? = some p := by
  rw [parent?, above_of_mem_siblings h]

namespace Cpp

variable {v : View} {p q : Place} {o : Place × Symbol} {items : List (Place × Symbol)}

def memberedTypes (v : View) : List TypeBody := typeBodies v classKinds ++ typeBodies v ["union_specifier"]

def memberOrigins (v : View) : List (Place × Symbol) :=
  (memberedTypes v).flatMap fun t => members v t.name t.body

def templateOrigin? (v : View) (template : Place) : Option (Place × Symbol) :=
  (templated? template).bind fun p => (templatedName? v p).map fun named =>
    (p, v.symbol template named.2 named.1 (v.head template true) (v.doc comments template))

def templateOrigins (v : View) : List (Place × Symbol) :=
  (v.root.namedDescendants ["template_declaration"]).filterMap (templateOrigin? v)

def origins (v : View) : List (Place × Symbol) :=
  memberOrigins v ++ templateOrigins v ++ (definedFunctions v ++ prototypes v) ++ definedOperators v

def reportsAmong (items : List (Place × Symbol)) (p : Place) : List Symbol :=
  (items.filter (·.1.address == p.address)).map (·.2)

def reports (v : View) (p : Place) : List Symbol := reportsAmong (origins v) p

lemma symbols_templateFindings (template : Place) :
    (templateFindings v template).symbols = ((templateOrigin? v template).map (·.2)).toList := by
  unfold templateFindings templateOrigin?
  cases templated? template with
  | none => rfl
  | some p =>
    cases h : templatedName? v p <;> simp [h, Findings.append_symbols, Findings.ofSymbols, Findings.ofDeclared]

lemma children_classes (found : Findings) :
    (classes v found).symbols.flatMap (·.children) =
      ((typeBodies v classKinds).flatMap fun t => members v t.name t.body).map (·.2) := by
  have hsymbols : (classes v found).symbols = (typeBodies v classKinds).map (classSymbol v) :=
    Findings.symbols_concat_map (fun _ => rfl) _
  rw [hsymbols, List.flatMap_map, List.map_flatMap]
  simp only [classSymbol_children]

lemma children_unions (found : Findings) :
    (unions v found).symbols.flatMap (·.children) =
      ((typeBodies v ["union_specifier"]).flatMap fun t => members v t.name t.body).map (·.2) := by
  have hsymbols : (unions v found).symbols =
      (typeBodies v ["union_specifier"]).map (memberedSymbol v .unionType "union") :=
    Findings.symbols_concat_map (fun _ => rfl) _
  rw [hsymbols, List.flatMap_map, List.map_flatMap]
  rfl

lemma symbols_templates (found : Findings) : (templates v found).symbols = (templateOrigins v).map (·.2) := by
  rw [templates, Findings.symbols_concat, List.flatMap_map, templateOrigins, List.map_filterMap,
    List.filterMap_eq_flatMap_toList]
  simp only [symbols_templateFindings]

lemma map_origins (v : View) (first second third fourth fifth : Findings) :
    (origins v).map (·.2) =
      ((classes v first).symbols ++ (unions v second).symbols).flatMap (·.children) ++ (templates v third).symbols ++
        (functions v fourth).symbols ++ (operators v fifth).symbols := by
  rw [List.flatMap_append, children_classes, children_unions, symbols_templates, ← List.map_append,
    ← List.flatMap_append]
  simp only [origins, memberOrigins, memberedTypes, functions, operators, Findings.append_symbols,
    Findings.ofDeclarations, Findings.ofSymbols, List.map_append]

def MemberLists (root : Place) : Prop :=
  ∀ p ∈ root.namedDescendants ("union_specifier" :: classKinds), ∀ body ∈ p.childByField? "body",
    body.kind = "field_declaration_list"

instance (root : Place) : Decidable (MemberLists root) :=
  inferInstanceAs (Decidable (∀ p ∈ root.namedDescendants _, ∀ body ∈ p.childByField? "body", _))

def TemplatedOperator (root p : Place) : Prop :=
  ∃ template ∈ root.namedDescendants ["template_declaration"],
    templated? template = some p ∧ ∃ name, functionName? p = some name ∧ isOperator name = true

section Members

lemma fst_of_mem_memberSymbols {className : String} {item : Place} (h : o ∈ memberSymbols v className item) :
    o.1 = item := by
  unfold memberSymbols at h
  dsimp only at h
  split at h
  · obtain ⟨name, _, rfl⟩ := List.mem_map.mp h
    rfl
  · split at h
    · split at h
      · obtain rfl := List.mem_singleton.mp h
        rfl
      · obtain ⟨name, _, rfl⟩ := List.mem_map.mp h
        rfl
    · cases h

/-- Two symbols of one definition do not occur. Two fields of one declaration do. -/
def DefinedOnce (items : List (Place × Symbol)) : Prop :=
  items.Pairwise fun a b => a.1.kind = "function_definition" → a.1.address ≠ b.1.address

lemma definedOnce_memberSymbols (className : String) (item : Place) :
    DefinedOnce (memberSymbols v className item) := by
  by_cases hk : item.kind = "function_definition"
  · unfold memberSymbols
    dsimp only
    rw [if_pos (by simpa using hk)]
    cases functionName? item with
    | none => exact .nil
    | some name => exact List.pairwise_singleton _ _
  · refine List.pairwise_of_forall_mem_list fun a ha b _ ha' => ?_
    exact absurd (fst_of_mem_memberSymbols ha ▸ ha') hk

lemma mem_namedChildren_of_mem_members {className : String} {body : Place} (h : o ∈ members v className body) :
    o.1 ∈ body.namedChildren := by
  obtain ⟨item, hi, ho⟩ := List.mem_flatMap.mp h
  exact fst_of_mem_memberSymbols ho ▸ hi

lemma definedOnce_members (className : String) (body : Place) : DefinedOnce (members v className body) := by
  refine List.pairwise_flatMap.mpr ⟨fun item _ => definedOnce_memberSymbols className item, ?_⟩
  refine ((body.pairwise_address_children).filter _).imp fun {a b} hne x hx y hy _ => ?_
  rwa [fst_of_mem_memberSymbols hx, fst_of_mem_memberSymbols hy]

lemma node_of_mem_typeBodies {kinds : List String} {t : TypeBody} (h : t ∈ typeBodies v kinds) :
    t.node ∈ v.root.namedDescendants kinds ∧ t.node.childByField? "body" = some t.body := by
  obtain ⟨node, hn, ht⟩ := List.mem_filterMap.mp h
  split at ht
  · rename_i name body _ hb
    obtain rfl := Option.some.inj ht
    exact ⟨hn, hb⟩
  · cases ht

lemma pairwise_typeBodies (kinds : List String) :
    (typeBodies v kinds).Pairwise fun a b => a.node.address ≠ b.node.address := by
  refine List.pairwise_filterMap.mpr ((v.root.pairwise_address_namedDescendants kinds).imp ?_)
  intro p q hne a ha b hb
  split at ha <;> cases ha
  split at hb <;> cases hb
  exact hne

lemma node_of_mem_memberedTypes {t : TypeBody} (h : t ∈ memberedTypes v) :
    t.node ∈ v.root.namedDescendants ("union_specifier" :: classKinds) ∧
      t.node.childByField? "body" = some t.body := by
  have hkinds {kinds : List String} (hs : kinds ⊆ "union_specifier" :: classKinds) (ht : t ∈ typeBodies v kinds) :
      t.node ∈ v.root.namedDescendants ("union_specifier" :: classKinds) ∧
        t.node.childByField? "body" = some t.body := by
    obtain ⟨hn, hb⟩ := node_of_mem_typeBodies ht
    obtain ⟨hr, hnamed, hk⟩ := Place.mem_namedDescendants.mp hn
    refine ⟨Place.mem_namedDescendants.mpr ⟨hr, hnamed, ?_⟩, hb⟩
    exact List.contains_iff_mem.mpr (hs (List.contains_iff_mem.mp hk))
  rcases List.mem_append.mp h with h | h
  · exact hkinds (by simp) h
  · exact hkinds (by simp) h

lemma holds_node_of_mem_memberedTypes {t : TypeBody} (h : t ∈ memberedTypes v) : v.root.Holds t.node :=
  Place.holds_of_mem_namedDescendants (node_of_mem_memberedTypes h).1

lemma pairwise_memberedTypes (v : View) :
    (memberedTypes v).Pairwise fun a b => a.node.address ≠ b.node.address := by
  refine List.pairwise_append.mpr ⟨pairwise_typeBodies _, pairwise_typeBodies _, fun a ha b hb he => ?_⟩
  have hca := (Place.mem_namedDescendants.mp (node_of_mem_typeBodies ha).1).2.2
  have hcb := Place.kind_of_mem_namedDescendants (node_of_mem_typeBodies hb).1
  have hab : a.node = b.node := Place.eq_of_address_eq
    (holds_node_of_mem_memberedTypes (List.mem_append_left _ ha))
    (holds_node_of_mem_memberedTypes (List.mem_append_right _ hb)) he
  rw [hab, Place.isAny, show b.node.node.kind = _ from hcb] at hca
  exact absurd hca (by decide)

lemma parents_of_mem_members {t : TypeBody} (ht : t ∈ memberedTypes v) (h : o ∈ members v t.name t.body) :
    v.root.Holds o.1 ∧ o.1.parent? = some t.body ∧ t.body.parent? = some t.node := by
  have hitem := (List.mem_filter.mp (mem_namedChildren_of_mem_members h)).1
  have hbody := List.mem_of_find?_eq_some (node_of_mem_memberedTypes ht).2
  have hholds := (holds_node_of_mem_memberedTypes ht).trans (Place.holds_of_mem_children hbody)
  exact ⟨hholds.trans (Place.holds_of_mem_children hitem), Place.parent?_of_mem_children hitem,
    Place.parent?_of_mem_children hbody⟩

lemma definedOnce_memberOrigins (v : View) : DefinedOnce (memberOrigins v) := by
  refine List.pairwise_flatMap.mpr ⟨fun t _ => definedOnce_members t.name t.body, ?_⟩
  refine (pairwise_memberedTypes v).imp_of_mem fun {a b} ha hb hne x hx y hy _ he => hne ?_
  obtain ⟨hxr, hxp, hap⟩ := parents_of_mem_members ha hx
  obtain ⟨hyr, hyp, hbp⟩ := parents_of_mem_members hb hy
  have hbody : a.body = b.body := by
    rw [Place.eq_of_address_eq hxr hyr he, hyp] at hxp
    exact (Option.some.inj hxp).symm
  have hnode : a.node = b.node := by
    rw [hbody, hbp] at hap
    exact (Option.some.inj hap).symm
  rw [hnode]

end Members

section Reports

variable {s : Symbol} {root : Place}

lemma reportsAmong_append (first second : List (Place × Symbol)) (p : Place) :
    reportsAmong (first ++ second) p = reportsAmong first p ++ reportsAmong second p := by
  simp [reportsAmong]

lemma mem_reportsAmong (hi : ∀ o ∈ items, root.Holds o.1) (hp : root.Holds p) :
    s ∈ reportsAmong items p ↔ (p, s) ∈ items := by
  simp only [reportsAmong, List.mem_map, List.mem_filter, beq_iff_eq]
  constructor
  · rintro ⟨o, ⟨ho, ha⟩, rfl⟩
    rw [← Place.eq_of_address_eq (hi o ho) hp ha]
    exact ho
  · exact fun h => ⟨(p, s), ⟨h, rfl⟩, rfl⟩

lemma length_reportsAmong_le_one (hi : ∀ o ∈ items, root.Holds o.1) (hp : root.Holds p)
    (hk : p.kind = "function_definition") (h : DefinedOnce items) : (reportsAmong items p).length ≤ 1 := by
  have hat : ∀ o ∈ items.filter (·.1.address == p.address), o.1 = p := fun o ho =>
    Place.eq_of_address_eq (hi o (List.mem_filter.mp ho).1) hp (by simpa using (List.mem_filter.mp ho).2)
  have honce := List.Pairwise.filter (·.1.address == p.address) h
  rw [reportsAmong, List.length_map]
  generalize items.filter (·.1.address == p.address) = found at hat honce
  rcases found with _ | ⟨first, _ | ⟨second, more⟩⟩
  · simp
  · simp
  · have hfirst := hat first (by simp)
    have hsecond := hat second (by simp)
    have hne := (List.pairwise_cons.mp honce).1 second (by simp) (hfirst ▸ hk)
    rw [hfirst, hsecond] at hne
    exact absurd rfl hne

lemma holds_of_mem_memberOrigins (h : o ∈ memberOrigins v) : v.root.Holds o.1 := by
  obtain ⟨t, ht, ho⟩ := List.mem_flatMap.mp h
  exact (parents_of_mem_members ht ho).1

lemma isMember_of_mem_memberOrigins (hm : MemberLists v.root) (h : o ∈ memberOrigins v) : isMember o.1 = true := by
  obtain ⟨t, ht, ho⟩ := List.mem_flatMap.mp h
  obtain ⟨hn, hb⟩ := node_of_mem_memberedTypes ht
  have hk := hm t.node hn t.body hb
  rw [isMember, (parents_of_mem_members ht ho).2.1]
  simpa using hk

lemma parent?_of_templated? {template : Place} (h : templated? template = some p) :
    p ∈ template.namedChildren ∧ p.parent? = some template := by
  have hm := List.mem_of_find?_eq_some h
  exact ⟨hm, Place.parent?_of_mem_children (List.mem_filter.mp hm).1⟩

lemma parent?_of_templateOrigin? {template : Place} (h : templateOrigin? v template = some o) :
    o.1.parent? = some template := by
  obtain ⟨p, hp, hs⟩ := Option.bind_eq_some_iff.mp h
  obtain ⟨_, _, rfl⟩ := Option.map_eq_some_iff.mp hs
  exact (parent?_of_templated? hp).2

lemma mem_templateOrigins :
    o ∈ templateOrigins v ↔ ∃ template ∈ v.root.namedDescendants ["template_declaration"],
      templated? template = some o.1 ∧ ∃ name kind, templatedName? v o.1 = some (name, kind) ∧
        o.2 = v.symbol template kind name (v.head template true) (v.doc comments template) := by
  obtain ⟨p, s⟩ := o
  simp only [templateOrigins, List.mem_filterMap, templateOrigin?, Option.bind_eq_some_iff, Option.map_eq_some_iff,
    Prod.mk.injEq, Prod.exists]
  grind

lemma holds_of_mem_templateOrigins (h : o ∈ templateOrigins v) : v.root.Holds o.1 := by
  obtain ⟨template, ht, hp, -⟩ := mem_templateOrigins.mp h
  have hchild := Place.holds_of_mem_namedChildren (parent?_of_templated? hp).1
  exact (Place.holds_of_mem_namedDescendants ht).trans hchild

lemma definedOnce_templateOrigins (v : View) : DefinedOnce (templateOrigins v) := by
  refine List.pairwise_filterMap.mpr ?_
  refine (v.root.pairwise_address_namedDescendants _).imp_of_mem fun {a b} ha hb hne x hx y hy _ he => hne ?_
  have hx' : x ∈ templateOrigins v := List.mem_filterMap.mpr ⟨a, ha, hx⟩
  have hy' : y ∈ templateOrigins v := List.mem_filterMap.mpr ⟨b, hb, hy⟩
  have hxy := Place.eq_of_address_eq (holds_of_mem_templateOrigins hx') (holds_of_mem_templateOrigins hy') he
  have hparent := (parent?_of_templateOrigin? hx).symm.trans ((congrArg Place.parent? hxy).trans
    (parent?_of_templateOrigin? hy))
  rw [Option.some.inj hparent]

lemma isInTemplate_of_mem_templateOrigins (h : o ∈ templateOrigins v) :
    isInTemplate o.1 = true ∧ isMember o.1 = false := by
  obtain ⟨template, ht, hp, -⟩ := mem_templateOrigins.mp h
  simp [isInTemplate, isMember, (parent?_of_templated? hp).2, Place.kind_of_mem_namedDescendants ht]

lemma mem_functionNodes {kind : String} {name : Place} :
    (p, name) ∈ functionNodes v kind ↔ p ∈ v.root.namedDescendants [kind] ∧ functionName? p = some name := by
  simp only [functionNodes, List.mem_filterMap, Option.map_eq_some_iff, Prod.mk.injEq]
  grind

lemma mem_definedFunctions :
    (p, s) ∈ definedFunctions v ↔ ∃ name, (p, name) ∈ functionNodes v "function_definition" ∧
      (isMember p = false ∧ isInTemplate p = false ∧ isOperator name = false) ∧
        s = headSymbol v (functionKind v p) false p (v.text name) := by
  simp only [definedFunctions, List.mem_map, List.mem_filter, Prod.mk.injEq, Prod.exists]
  grind

lemma mem_definedOperators :
    (p, s) ∈ definedOperators v ↔ ∃ name, (p, name) ∈ functionNodes v "function_definition" ∧
      (isMember p = false ∧ isOperator name = true) ∧ s = headSymbol v .operator false p (v.text name) := by
  simp only [definedOperators, List.mem_map, List.mem_filter, Prod.mk.injEq, Prod.exists]
  grind

lemma definedOnce_functionNodes (kind : String) (keep : Place × Place → Bool) (symbol : Place × Place → Symbol) :
    DefinedOnce (((functionNodes v kind).filter keep).map fun d => (d.1, symbol d)) := by
  have hnodes : (functionNodes v kind).Pairwise fun a b => a.1.address ≠ b.1.address := by
    refine List.pairwise_filterMap.mpr ((v.root.pairwise_address_namedDescendants [kind]).imp ?_)
    intro p q hne a ha b hb
    obtain ⟨_, _, rfl⟩ := Option.map_eq_some_iff.mp ha
    obtain ⟨_, _, rfl⟩ := Option.map_eq_some_iff.mp hb
    exact hne
  refine List.pairwise_map.mpr ((hnodes.filter keep).imp ?_)
  intro a b hne _
  exact hne

lemma holds_of_mem_map_functionNodes {kind : String} {keep : Place × Place → Bool}
    {symbol : Place × Place → Symbol} :
    ∀ o ∈ ((functionNodes v kind).filter keep).map fun d => (d.1, symbol d), v.root.Holds o.1 :=
  List.forall_mem_map.mpr fun _ hd => holds_of_mem_functionNodes (List.mem_filter.mp hd).1

lemma definedOnce_definedFunctions (v : View) : DefinedOnce (definedFunctions v) :=
  definedOnce_functionNodes _ _ _

lemma definedOnce_definedOperators (v : View) : DefinedOnce (definedOperators v) :=
  definedOnce_functionNodes _ _ _

lemma holds_definedFunctions : ∀ o ∈ definedFunctions v, v.root.Holds o.1 := holds_of_mem_map_functionNodes

lemma holds_definedOperators : ∀ o ∈ definedOperators v, v.root.Holds o.1 := holds_of_mem_map_functionNodes

lemma reportsAmong_eq_nil (hi : ∀ o ∈ items, root.Holds o.1) (hp : root.Holds p) (h : ∀ s, (p, s) ∉ items) :
    reportsAmong items p = [] :=
  List.eq_nil_iff_forall_not_mem.mpr fun s hs => h s ((mem_reportsAmong hi hp).mp hs)

lemma reportsAmong_eq_singleton (hi : ∀ o ∈ items, root.Holds o.1) (hp : root.Holds p)
    (hk : p.kind = "function_definition") (ho : DefinedOnce items) (h : (p, s) ∈ items) :
    reportsAmong items p = [s] := by
  have hs := (mem_reportsAmong hi hp).mpr h
  have hle := length_reportsAmong_le_one hi hp hk ho
  obtain ⟨only, he⟩ := List.length_eq_one_iff.mp (Nat.le_antisymm hle (List.length_pos_of_mem hs))
  rw [he] at hs ⊢
  rw [List.mem_singleton.mp hs]

lemma reports_eq (hp : v.root.Holds p) (hk : p.kind = "function_definition") :
    reports v p = reportsAmong (memberOrigins v) p ++ reportsAmong (templateOrigins v) p ++
      reportsAmong (definedFunctions v) p ++ reportsAmong (definedOperators v) p := by
  have hprototypes : reportsAmong (prototypes v) p = [] := by
    refine reportsAmong_eq_nil holds_of_mem_map_functionNodes hp fun s hs => ?_
    obtain ⟨⟨q, name⟩, hq, he⟩ := List.mem_map.mp hs
    obtain ⟨rfl, -⟩ := Prod.mk.inj he
    have hkind := Place.kind_of_mem_namedDescendants (mem_functionNodes.mp (List.mem_filter.mp hq).1).1
    rw [hk] at hkind
    exact absurd hkind (by decide)
  simp only [reports, origins, reportsAmong_append, hprototypes, List.append_nil]

lemma templatedName?_of_definition (hk : p.kind = "function_definition") :
    templatedName? v p = (functionName? p).map fun name => (v.text name, .functionTemplate) := by
  have hclass : p.isAny classKinds = false := by
    rw [Place.isAny, show p.node.kind = _ from hk]
    decide
  rw [templatedName?, hclass, hk]
  rfl

lemma reports_of_templatedOperator (hm : MemberLists v.root) (hp : v.root.Holds p)
    (hk : p.kind = "function_definition") (h : TemplatedOperator v.root p) :
    (reports v p).map (·.kind) = [.functionTemplate, .operator] := by
  obtain ⟨template, ht, hd, name, hn, ho⟩ := h
  have htemplate : (p, v.symbol template .functionTemplate (v.text name) (v.head template true)
      (v.doc comments template)) ∈ templateOrigins v :=
    mem_templateOrigins.mpr ⟨template, ht, hd, _, _, by rw [templatedName?_of_definition hk, hn]; rfl, rfl⟩
  obtain ⟨hin, hmember⟩ := isInTemplate_of_mem_templateOrigins htemplate
  have hreached : p ∈ v.root.namedDescendants ["function_definition"] := by
    obtain ⟨hr, -, -⟩ := Place.mem_namedDescendants.mp ht
    obtain ⟨hc, -⟩ := parent?_of_templated? hd
    exact Place.mem_namedDescendants.mpr ⟨hr.tail hc, (List.mem_filter.mp hc).2,
      List.contains_iff_mem.mpr (List.mem_singleton.mpr hk)⟩
  have hoperator : (p, headSymbol v .operator false p (v.text name)) ∈ definedOperators v :=
    mem_definedOperators.mpr ⟨name, mem_functionNodes.mpr ⟨hreached, hn⟩, ⟨hmember, ho⟩, rfl⟩
  have hmembers : reportsAmong (memberOrigins v) p = [] :=
    reportsAmong_eq_nil (fun _ => holds_of_mem_memberOrigins) hp fun s hs => by
      simp [isMember_of_mem_memberOrigins hm hs] at hmember
  have hfunctions : reportsAmong (definedFunctions v) p = [] :=
    reportsAmong_eq_nil holds_definedFunctions hp fun s hs => by
      obtain ⟨_, _, ⟨-, hout, -⟩, -⟩ := mem_definedFunctions.mp hs
      simp [hin] at hout
  rw [reports_eq hp hk, hmembers, hfunctions,
    reportsAmong_eq_singleton (fun _ => holds_of_mem_templateOrigins) hp hk (definedOnce_templateOrigins v) htemplate,
    reportsAmong_eq_singleton holds_definedOperators hp hk (definedOnce_definedOperators v) hoperator]
  rfl

lemma exists_mem_of_reportsAmong_ne_nil (hi : ∀ o ∈ items, root.Holds o.1) (hp : root.Holds p)
    (h : reportsAmong items p ≠ []) : ∃ s, (p, s) ∈ items := by
  obtain ⟨s, hs⟩ := List.exists_mem_of_ne_nil _ h
  exact ⟨s, (mem_reportsAmong hi hp).mp hs⟩

lemma operators_of_templated (hp : v.root.Holds p) (h : ¬ TemplatedOperator v.root p)
    (ht : reportsAmong (templateOrigins v) p ≠ []) : reportsAmong (definedOperators v) p = [] := by
  obtain ⟨s, hs⟩ := exists_mem_of_reportsAmong_ne_nil (fun _ => holds_of_mem_templateOrigins) hp ht
  obtain ⟨template, ht, hd, -⟩ := mem_templateOrigins.mp hs
  refine reportsAmong_eq_nil holds_definedOperators hp fun s hs => h ?_
  obtain ⟨name, hn, ⟨-, ho⟩, -⟩ := mem_definedOperators.mp hs
  exact ⟨template, ht, hd, name, (mem_functionNodes.mp hn).2, ho⟩

lemma operators_of_function (hp : v.root.Holds p) (hf : reportsAmong (definedFunctions v) p ≠ []) :
    reportsAmong (definedOperators v) p = [] := by
  obtain ⟨s, hs⟩ := exists_mem_of_reportsAmong_ne_nil holds_definedFunctions hp hf
  obtain ⟨name, hn, ⟨-, -, hno⟩, -⟩ := mem_definedFunctions.mp hs
  refine reportsAmong_eq_nil holds_definedOperators hp fun s hs => ?_
  obtain ⟨other, ho, ⟨-, hyes⟩, -⟩ := mem_definedOperators.mp hs
  obtain rfl := Option.some.inj ((mem_functionNodes.mp hn).2.symm.trans (mem_functionNodes.mp ho).2)
  rw [hno] at hyes
  cases hyes

/-- The passes share out the definitions: members go to the types, what is in a template to the templates, and the
rest by name to the functions and to the operators. -/
lemma length_reports_le_one (hm : MemberLists v.root) (hp : v.root.Holds p) (hk : p.kind = "function_definition")
    (h : ¬ TemplatedOperator v.root p) : (reports v p).length ≤ 1 := by
  have hmembers := length_reportsAmong_le_one (fun _ => holds_of_mem_memberOrigins) hp hk
    (definedOnce_memberOrigins v)
  have htemplates := length_reportsAmong_le_one (fun _ => holds_of_mem_templateOrigins) hp hk
    (definedOnce_templateOrigins v)
  have hfunctions := length_reportsAmong_le_one holds_definedFunctions hp hk (definedOnce_definedFunctions v)
  have hoperators := length_reportsAmong_le_one holds_definedOperators hp hk (definedOnce_definedOperators v)
  have hnoTemplate (hn : ¬ (isInTemplate p = true ∧ isMember p = false)) :
      reportsAmong (templateOrigins v) p = [] :=
    reportsAmong_eq_nil (fun _ => holds_of_mem_templateOrigins) hp fun s hs =>
      hn (isInTemplate_of_mem_templateOrigins hs)
  have hnoFunction (hn : ¬ (isMember p = false ∧ isInTemplate p = false)) :
      reportsAmong (definedFunctions v) p = [] :=
    reportsAmong_eq_nil holds_definedFunctions hp fun s hs => by
      obtain ⟨_, _, ⟨hout, htop, -⟩, -⟩ := mem_definedFunctions.mp hs
      exact hn ⟨hout, htop⟩
  rw [reports_eq hp hk]
  cases hmember : isMember p with
  | true =>
    have hnoOperator : reportsAmong (definedOperators v) p = [] :=
      reportsAmong_eq_nil holds_definedOperators hp fun s hs => by
        obtain ⟨_, _, ⟨hout, -⟩, -⟩ := mem_definedOperators.mp hs
        simp [hmember] at hout
    rw [hnoTemplate (by simp [hmember]), hnoFunction (by simp [hmember]), hnoOperator]
    simpa using hmembers
  | false =>
    have hnoMember : reportsAmong (memberOrigins v) p = [] :=
      reportsAmong_eq_nil (fun _ => holds_of_mem_memberOrigins) hp fun s hs => by
        simp [isMember_of_mem_memberOrigins hm hs] at hmember
    rw [hnoMember]
    cases hin : isInTemplate p with
    | true =>
      rw [hnoFunction (by simp [hin])]
      by_cases ht : reportsAmong (templateOrigins v) p = []
      · simpa [ht] using hoperators
      · simpa [operators_of_templated hp h ht] using htemplates
    | false =>
      rw [hnoTemplate (by simp [hin])]
      by_cases hf : reportsAmong (definedFunctions v) p = []
      · simpa [hf] using hoperators
      · simpa [operators_of_function hp hf] using hfunctions

end Reports

/-- Each definition of a function gives at most one symbol among the members of types, the templates, the functions
and the operators, unless it is an operator that a template declares: this gives two. -/
theorem definition_is_reported_once_unless_templated_operator (v : View) (hm : MemberLists v.root) :
    (∀ first second third fourth fifth : Findings, (origins v).map (·.2) =
      ((classes v first).symbols ++ (unions v second).symbols).flatMap (·.children) ++ (templates v third).symbols ++
        (functions v fourth).symbols ++ (operators v fifth).symbols) ∧
    ∀ p, v.root.Holds p → p.kind = "function_definition" →
      ((reports v p).length ≤ 1 ↔ ¬ TemplatedOperator v.root p) ∧
      (TemplatedOperator v.root p → (reports v p).map (·.kind) = [.functionTemplate, .operator]) := by
  refine ⟨map_origins v, fun p hp hk => ⟨⟨fun hle ht => ?_, length_reports_le_one hm hp hk⟩,
    reports_of_templatedOperator hm hp hk⟩⟩
  have htwo := congrArg List.length (reports_of_templatedOperator hm hp hk ht)
  rw [List.length_map, List.length_cons, List.length_singleton] at htwo
  omega

theorem method_is_reported_once_beside_templated_operator :
    let node (kind : String) (field : Option String) (start stop : ℕ) (children : List Node) : Node :=
      ⟨kind, true, field, start, stop, {}, children⟩
    let method := node "function_definition" none 11 22
      [node "function_declarator" (some "declarator") 16 19 [node "field_identifier" (some "declarator") 16 17 []]]
    let operator := node "function_definition" none 45 64
      [node "function_declarator" (some "declarator") 47 61 [node "operator_name" (some "declarator") 47 56 []]]
    let root := node "translation_unit" none 0 64
      [node "struct_specifier" none 0 24
        [node "type_identifier" (some "name") 7 8 [], node "field_declaration_list" (some "body") 9 24 [method]],
        node "template_declaration" none 26 64 [operator]]
    let source := "struct A \x7b void f() \x7b\x7d \x7d; template <class T> T operator+(T a) \x7b\x7d"
    let v : View := ⟨⟨"a.cpp"⟩, .cpp, source.toUTF8.data.toList, .ofRoot root⟩
    let definitions := v.root.namedDescendants ["function_definition"]
    definitions.map (fun p => (reports v p).map (·.kind)) = [[.method], [.functionTemplate, .operator]] ∧
      ∀ p ∈ definitions, ((reports v p).length ≤ 1 ↔ ¬ TemplatedOperator v.root p) := by
  intro node method operator root source v definitions
  refine ⟨by decide +kernel, fun p hp => ?_⟩
  obtain ⟨-, honce⟩ := definition_is_reported_once_unless_templated_operator v (by decide +kernel)
  exact (honce p (Place.holds_of_mem_namedDescendants hp) (Place.kind_of_mem_namedDescendants hp)).1

/-- One definition, two symbols: of the template and of the operator. -/
theorem operator_in_template_is_reported_twice :
    let operator : Node := ⟨"function_definition", true, none, 19, 43, {},
      [⟨"function_declarator", true, some "declarator", 21, 40, {},
        [⟨"operator_name", true, some "declarator", 21, 30, {}, []⟩]⟩]⟩
    let template : Node := ⟨"template_declaration", true, none, 0, 43, {}, [operator]⟩
    let v : View := ⟨⟨"a.cpp"⟩, .cpp, "template <class T> T operator+(T a, T b) \x7b\x7d".toUTF8.data.toList,
      .ofRoot ⟨"translation_unit", true, none, 0, 43, {}, [template]⟩⟩
    MemberLists v.root ∧
      ¬ ∀ p ∈ v.root.namedDescendants ["function_definition"], (reports v p).length ≤ 1 := by
  decide +kernel

end Cpp

end SourceAtlas
