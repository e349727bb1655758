import Mathlib.Tactic.Lemma
import SourceAtlas.Extract.Findings

/-! Looking around in a tree, by steps or by patterns, leads to the same places with marks and without them. -/

namespace SourceAtlas

mutual

def Node.unmarked : Node → Node
  | ⟨kind, named, field, start, stop, _, children⟩ =>
    ⟨kind, named, field, start, stop, {}, Node.unmarkedAll children⟩

def Node.unmarkedAll : List Node → List Node
  | [] => []
  | n :: ns => n.unmarked :: Node.unmarkedAll ns

end

namespace Node

@[simp] lemma unmarked_kind (n : Node) : n.unmarked.kind = n.kind := by
  cases n
  rfl

@[simp] lemma unmarked_named (n : Node) : n.unmarked.named = n.named := by
  cases n
  rfl

@[simp] lemma unmarked_field (n : Node) : n.unmarked.field = n.field := by
  cases n
  rfl

@[simp] lemma unmarked_start (n : Node) : n.unmarked.start = n.start := by
  cases n
  rfl

@[simp] lemma unmarked_stop (n : Node) : n.unmarked.stop = n.stop := by
  cases n
  rfl

lemma unmarkedAll_eq (ns : List Node) : unmarkedAll ns = ns.map unmarked := by
  induction ns with
  | nil => rfl
  | cons n ns ih => rw [unmarkedAll, ih, List.map_cons]

@[simp] lemma unmarked_children (n : Node) : n.unmarked.children = n.children.map unmarked := by
  cases n
  exact unmarkedAll_eq _

end Node

def Frame.unmarked (f : Frame) : Frame := ⟨f.node.unmarked, f.before.map Node.unmarked⟩

def Place.unmarked (p : Place) : Place :=
  ⟨p.node.unmarked, p.before.map Node.unmarked, p.above.map Frame.unmarked⟩

namespace Place

@[simp] lemma unmarked_node (p : Place) : p.unmarked.node = p.node.unmarked := rfl

@[simp] lemma unmarked_kind (p : Place) : p.unmarked.kind = p.kind := p.node.unmarked_kind

@[simp] lemma unmarked_isAny (p : Place) (kinds : List String) : p.unmarked.isAny kinds = p.isAny kinds := by
  simp [isAny]

@[simp] lemma unmarked_address (p : Place) : p.unmarked.address = p.address := by
  simp [address, unmarked, Frame.unmarked]

@[simp] lemma parent?_unmarked (p : Place) : p.unmarked.parent? = p.parent?.map unmarked := by
  rcases p with ⟨node, before, above⟩
  cases above <;> rfl

lemma ofFrames_unmarked (frames : List Frame) :
    ofFrames (frames.map Frame.unmarked) = (ofFrames frames).map unmarked := by
  induction frames with
  | nil => rfl
  | cons frame frames ih =>
    rw [List.map_cons, ofFrames, ofFrames, ih]
    rfl

@[simp] lemma ancestors_unmarked (p : Place) : p.unmarked.ancestors = p.ancestors.map unmarked :=
  ofFrames_unmarked p.above

@[simp] lemma earlier_unmarked (p : Place) : p.unmarked.earlier = p.earlier.map unmarked := by
  have hgo (before : List Node) :
      earlier.go p.unmarked (before.map Node.unmarked) = (earlier.go p before).map unmarked := by
    induction before with
    | nil => rfl
    | cons n ns ih =>
      rw [List.map_cons, earlier.go, earlier.go, ih]
      rfl
  exact hgo p.before

lemma siblings_unmarked (above : List Frame) (before ns : List Node) :
    siblings (above.map Frame.unmarked) (before.map Node.unmarked) (ns.map Node.unmarked) =
      (siblings above before ns).map unmarked := by
  induction ns generalizing before with
  | nil => rfl
  | cons n ns ih =>
    have htail := ih (n :: before)
    rw [List.map_cons, siblings, siblings, List.map_cons, ← htail]
    rfl

@[simp] lemma children_unmarked (p : Place) : p.unmarked.children = p.children.map unmarked := by
  have hs := siblings_unmarked (⟨p.node, p.before⟩ :: p.above) [] p.node.children
  rw [children, unmarked_node, Node.unmarked_children, children, ← hs]
  rfl

@[simp] lemma namedChildren_unmarked (p : Place) : p.unmarked.namedChildren = p.namedChildren.map unmarked := by
  simp [namedChildren, List.filter_map, Function.comp_def]

@[simp] lemma lastNamedChild?_unmarked (p : Place) :
    p.unmarked.lastNamedChild? = p.lastNamedChild?.map unmarked := by
  simp [lastNamedChild?]

lemma find?_unmarked {test : Place → Bool} (h : ∀ p, test p.unmarked = test p) (places : List Place) :
    (places.map unmarked).find? test = (places.find? test).map unmarked := by
  rw [List.find?_map]
  exact congrArg (fun test => (places.find? test).map unmarked) (funext h)

@[simp] lemma childOfKind?_unmarked (p : Place) (kind : String) :
    p.unmarked.childOfKind? kind = (p.childOfKind? kind).map unmarked := by
  rw [childOfKind?, children_unmarked, find?_unmarked fun q => by rw [unmarked_kind]]
  rfl

@[simp] lemma childOfKinds?_unmarked (p : Place) (kinds : List String) :
    p.unmarked.childOfKinds? kinds = (p.childOfKinds? kinds).map unmarked := by
  rw [childOfKinds?, children_unmarked, find?_unmarked fun q => by rw [unmarked_isAny]]
  rfl

@[simp] lemma hasChild_unmarked (p : Place) (kind : String) : p.unmarked.hasChild kind = p.hasChild kind := by
  simp [hasChild, Function.comp_def]

@[simp] lemma childByField?_unmarked (p : Place) (field : String) :
    p.unmarked.childByField? field = (p.childByField? field).map unmarked := by
  rw [childByField?, children_unmarked, find?_unmarked fun q => by rw [unmarked_node, Node.unmarked_field]]
  rfl

@[simp] lemma childrenByField_unmarked (p : Place) (field : String) :
    p.unmarked.childrenByField field = (p.childrenByField field).map unmarked := by
  simp [childrenByField, List.filter_map, Function.comp_def]

@[simp] lemma isInside_unmarked (p : Place) (kinds : List String) : p.unmarked.isInside kinds = p.isInside kinds := by
  simp [isInside, Function.comp_def]

lemma walk_unmarked {keep : Node → Bool} (hk : ∀ n, keep n.unmarked = keep n) (stack : List Place) :
    walk keep (stack.map unmarked) = (walk keep stack).map unmarked := by
  induction stack using walk.induct keep with
  | case1 => simp [walk]
  | case2 p stack ih =>
    rw [List.map_cons, walk, walk, List.map_cons, ← ih]
    simp [List.filter_map, Function.comp_def, hk]

@[simp] lemma descendants_unmarked (p : Place) : p.unmarked.descendants = p.descendants.map unmarked :=
  walk_unmarked (fun _ => rfl) [p]

@[simp] lemma namedDescendants_unmarked (p : Place) (kinds : List String) :
    p.unmarked.namedDescendants kinds = (p.namedDescendants kinds).map unmarked := by
  have hw := walk_unmarked Node.unmarked_named [p]
  rw [List.map_singleton] at hw
  simp [namedDescendants, hw, List.filter_map, Function.comp_def]

@[simp] lemma descendantOfKind?_unmarked (p : Place) (kind : String) :
    p.unmarked.descendantOfKind? kind = (p.descendantOfKind? kind).map unmarked := by
  rw [descendantOfKind?, descendants_unmarked, find?_unmarked fun q => by rw [unmarked_kind]]
  rfl

@[simp] lemma trailingName?_unmarked (path names : List String) (p : Place) :
    trailingName? path names p.unmarked = (trailingName? path names p).map unmarked := by
  fun_induction trailingName? path names p with
  | case1 p hn => simp [trailingName?, hn]
  | case2 p hn hp last hl ih =>
    rw [trailingName?, unmarked_isAny, unmarked_isAny, if_neg hn, if_pos hp]
    split <;> simp_all
  | case3 p hn hp hl =>
    rw [trailingName?, unmarked_isAny, unmarked_isAny, if_neg hn, if_pos hp]
    split <;> simp_all
  | case4 p hn hp => simp [trailingName?, hn, hp]

end Place

namespace Match

def unmarked (m : Match) : Match := ⟨m.captures.map (Prod.map id Place.unmarked), m.seen.map Place.unmarked⟩

@[simp] lemma place?_unmarked (m : Match) (name : String) :
    m.unmarked.place? name = (m.place? name).map Place.unmarked := by
  simp [place?, unmarked, Function.comp_def]

@[simp] lemma lastAddress_unmarked (m : Match) : m.unmarked.lastAddress = m.lastAddress := by
  simp [lastAddress, unmarked, Function.comp_def]

lemma unmarked_append (first second : Match) :
    (first.append second).unmarked = first.unmarked.append second.unmarked := by
  simp [append, unmarked]

lemma unmarked_capture (name : Option String) (p : Place) (m : Match) :
    (m.capture name p).unmarked = m.unmarked.capture name p.unmarked := by
  cases name <;> rfl

end Match

lemma choices_map {α β : Type} (f : α → β) (xs : List α) :
    choices (xs.map f) = (choices xs).map (Prod.map f (List.map f)) := by
  induction xs with
  | nil => rfl
  | cons x xs ih => rw [List.map_cons, choices, choices, ih, List.map_cons, Prod.map_apply]

namespace Pattern

mutual

lemma run_unmarked : (pattern : Pattern) → (p : Place) → pattern.run p.unmarked = (pattern.run p).map Match.unmarked
  | .node field kind capture children, p => by
    have hall := runAll_unmarked children p.children
    simp only [run, Place.unmarked_node, Node.unmarked_named, Node.unmarked_field, Node.unmarked_kind,
      Place.children_unmarked, hall]
    split
    · simp only [List.map_map]
      exact List.map_congr_left fun m _ => (Match.unmarked_capture capture p { m with seen := p :: m.seen }).symm
    · rfl
  | .oneOf field capture options, p => by
    have hany := runAny_unmarked options p
    simp only [run, Place.unmarked_node, Node.unmarked_field, hany]
    split
    · simp only [List.map_map]
      exact List.map_congr_left fun m _ => (Match.unmarked_capture capture p m).symm
    · rfl

lemma runAny_unmarked : (options : List Pattern) → (p : Place) →
    runAny options p.unmarked = (runAny options p).map Match.unmarked
  | [], _ => rfl
  | option :: options, p => by
    rw [runAny, runAny, run_unmarked option p, runAny_unmarked options p, List.map_append]

lemma runAll_unmarked : (patterns : List Pattern) → (places : List Place) →
    runAll patterns (places.map Place.unmarked) = (runAll patterns places).map Match.unmarked
  | [], _ => rfl
  | pattern :: patterns, places => by
    rw [runAll, runAll, choices_map, List.flatMap_map, List.map_flatMap]
    congr 1
    funext ⟨p, later⟩
    simp only [Prod.map_apply, run_unmarked pattern p, runAll_unmarked patterns later, List.flatMap_map,
      List.map_flatMap, List.map_map]
    congr 1
    funext first
    exact List.map_congr_left fun rest _ => (Match.unmarked_append first rest).symm

end

end Pattern

namespace Query

variable {text text' : Place → String}

lemma accepts_unmarked (ht : ∀ p : Place, text' p.unmarked = text p) (q : Query) (m : Match) :
    q.accepts text' m.unmarked = q.accepts text m := by
  simp [accepts, ht, Option.all_map]

lemma matchesIn_unmarked (ht : ∀ p : Place, text' p.unmarked = text p) (q : Query) (p : Place) :
    q.matchesIn text' p.unmarked = (q.matchesIn text p).map Match.unmarked := by
  have hfound : (p.unmarked.descendants.flatMap q.pattern.run).filter (q.accepts text') =
      ((p.descendants.flatMap q.pattern.run).filter (q.accepts text)).map Match.unmarked := by
    rw [Place.descendants_unmarked, List.flatMap_map]
    simp only [Pattern.run_unmarked]
    rw [← List.map_flatMap, List.filter_map]
    simp only [Function.comp_def, accepts_unmarked ht]
  rw [matchesIn, matchesIn, hfound]
  exact (List.map_mergeSort fun a _ b _ => by simp).symm

end Query

end SourceAtlas
