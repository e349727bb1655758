import Mathlib.Tactic.Lemma
import SourceAtlas.Proofs.Spans.Positions
import SourceAtlas.Tree.Errors

namespace SourceAtlas.Node

variable {root m n c : Node} {ms : List Node}

mutual
def nodes : Node → List Node
  | m@⟨_, _, _, _, _, _, children⟩ => m :: nodesOf children

def nodesOf : List Node → List Node
  | [] => []
  | m :: ms => m.nodes ++ nodesOf ms
end

lemma nodes_eq (m : Node) : m.nodes = m :: nodesOf m.children := by
  cases m
  rfl

lemma mem_nodes_self (m : Node) : m ∈ m.nodes := by
  rw [nodes_eq]
  exact List.mem_cons_self

lemma mem_nodesOf : n ∈ nodesOf ms ↔ ∃ m ∈ ms, n ∈ m.nodes := by
  induction ms with
  | nil => simp [nodesOf]
  | cons m ms ih => simp [nodesOf, ih]

lemma mem_nodes_of_mem_children (h : c ∈ m.children) (hn : n ∈ c.nodes) : n ∈ m.nodes := by
  rw [nodes_eq]
  exact List.mem_cons_of_mem _ (mem_nodesOf.mpr ⟨c, h, hn⟩)

mutual
lemma children_subset_nodes : (m : Node) → ∀ n ∈ m.nodes, n.children ⊆ m.nodes
  | ⟨kind, named, field, start, stop, marks, children⟩ => by
    intro n hn c hc
    rw [nodes] at hn ⊢
    refine List.mem_cons_of_mem _ ?_
    rcases List.mem_cons.mp hn with rfl | hn
    · exact mem_nodesOf.mpr ⟨c, hc, mem_nodes_self c⟩
    · exact children_subset_nodesOf children n hn hc

lemma children_subset_nodesOf : (ms : List Node) → ∀ n ∈ nodesOf ms, n.children ⊆ nodesOf ms
  | [] => by simp [nodesOf]
  | m :: ms => by
    intro n hn c hc
    rw [nodesOf] at hn ⊢
    rcases List.mem_append.mp hn with hn | hn
    · exact List.mem_append_left _ (children_subset_nodes m n hn hc)
    · exact List.mem_append_right _ (children_subset_nodesOf ms n hn hc)
end

def showsError (m : Node) : Bool := m.marks.isError || m.marks.isMissing

def isBroken (m : Node) : Bool := m.showsError || m.marks.hasError

def isCulprit (m : Node) : Bool :=
  m.showsError || m.marks.hasError && m.children.all (!·.isBroken)

/-- Each node that is broken itself, or has a broken node below it, is said to hold an error. -/
def Reports (root : Node) : Prop :=
  ∀ m ∈ root.nodes, ∀ n ∈ m.nodes, n.isBroken = true → m.marks.hasError = true

instance (root : Node) : Decidable root.Reports := inferInstanceAs (Decidable (∀ m ∈ root.nodes, _))

lemma Reports.child (h : m.Reports) (hc : c ∈ m.children) : c.Reports :=
  fun n hn => h n (mem_nodes_of_mem_children hc hn)

lemma Reports.isBroken_eq (h : root.Reports) : root.isBroken = root.hasErrors := by
  have hself := h root (mem_nodes_self root) root (mem_nodes_self root)
  rw [Bool.eq_iff_iff]
  refine ⟨hself, fun he => ?_⟩
  rw [isBroken]
  exact Bool.or_eq_true_iff.mpr (.inr he)

lemma blamed?_eq (m : Node) :
    m.blamed? =
      if m.showsError then some m else if m.marks.hasError then (firstBlamed? m.children).or (some m) else none := by
  cases m
  rfl

lemma isSome_blamed? (m : Node) : m.blamed?.isSome = m.isBroken := by
  rw [blamed?_eq, isBroken]
  cases m.showsError <;> cases m.marks.hasError <;> simp

lemma isSome_firstBlamed? (ms : List Node) : (firstBlamed? ms).isSome = ms.any isBroken := by
  induction ms with
  | nil => rfl
  | cons m ms ih => rw [firstBlamed?, Option.isSome_or, isSome_blamed?, ih, List.any_cons]

lemma firstBlamed?_eq_none (h : ∀ m ∈ ms, m.isBroken = false) : firstBlamed? ms = none := by
  rw [← Option.not_isSome_iff_eq_none, isSome_firstBlamed?, Bool.not_eq_true, List.any_eq_false]
  exact fun m hm => Bool.eq_false_iff.mp (h m hm)

lemma isCulprit_iff : m.isCulprit = true ↔
    m.showsError = true ∨ m.marks.hasError = true ∧ ∀ c ∈ m.children, c.isBroken = false := by
  simp [isCulprit]

/-- The search goes into a node only if the node is said to hold an error. It overlooks nothing then, since a broken
child makes its parent say so. -/
lemma Reports.blamed?_eq_of_children (h : m.Reports)
    (hc : firstBlamed? m.children = (nodesOf m.children).find? isCulprit) : m.blamed? = m.nodes.find? isCulprit := by
  rw [blamed?_eq, nodes_eq]
  by_cases hculprit : m.isCulprit = true
  · rw [List.find?_cons_of_pos hculprit]
    rcases isCulprit_iff.mp hculprit with hs | ⟨he, hchildren⟩
    · rw [if_pos hs]
    · rw [if_pos he, firstBlamed?_eq_none hchildren, Option.none_or, ite_self]
  · rw [List.find?_cons_of_neg hculprit, ← hc]
    have hs : ¬ m.showsError = true := fun hs => hculprit (isCulprit_iff.mpr (.inl hs))
    rw [if_neg hs]
    split
    · rename_i he
      have hbroken : ∃ c ∈ m.children, c.isBroken = true := by
        by_contra hn
        refine hculprit (isCulprit_iff.mpr (.inr ⟨he, fun c hc => ?_⟩))
        exact Bool.eq_false_iff.mpr fun hb => hn ⟨c, hc, hb⟩
      have hsome : (firstBlamed? m.children).isSome = true := by
        rw [isSome_firstBlamed?]
        exact List.any_eq_true.mpr hbroken
      exact Option.or_of_isSome hsome
    · rename_i he
      refine (firstBlamed?_eq_none fun c hc => Bool.eq_false_iff.mpr fun hb => he ?_).symm
      exact h m (mem_nodes_self m) c (mem_nodes_of_mem_children hc (mem_nodes_self c)) hb

mutual
lemma blamed?_eq_find? : (m : Node) → m.Reports → m.blamed? = m.nodes.find? isCulprit
  | ⟨_, _, _, _, _, _, children⟩, h => h.blamed?_eq_of_children (firstBlamed?_eq_find? children fun _ => h.child)

lemma firstBlamed?_eq_find? :
    (ms : List Node) → (∀ m ∈ ms, m.Reports) → firstBlamed? ms = (nodesOf ms).find? isCulprit
  | [], _ => rfl
  | m :: ms, h => by
    obtain ⟨hm, hms⟩ := List.forall_mem_cons.mp h
    rw [firstBlamed?, nodesOf, List.find?_append, blamed?_eq_find? m hm, firstBlamed?_eq_find? ms hms]
end

lemma Reports.find?_showsError (h : root.Reports) (hf : root.nodes.find? isCulprit = some m)
    (hseen : ∀ n ∈ root.nodes, n.marks.hasError = true → ∃ d ∈ n.nodes, d.showsError = true) :
    root.nodes.find? showsError = some m := by
  obtain ⟨hculprit, earlier, later, he, hearlier⟩ := List.find?_eq_some_iff_append.mp hf
  have hm : m ∈ root.nodes := List.mem_of_find?_eq_some hf
  refine List.find?_eq_some_iff_append.mpr ⟨?_, earlier, later, he, fun n hn => ?_⟩
  · rcases isCulprit_iff.mp hculprit with hs | ⟨herror, hchildren⟩
    · exact hs
    · obtain ⟨d, hd, hs⟩ := hseen m hm herror
      rw [nodes_eq] at hd
      rcases List.mem_cons.mp hd with rfl | hd
      · exact hs
      · -- The child that leads to `d` would be broken.
        obtain ⟨c, hc, hdc⟩ := mem_nodesOf.mp hd
        have hreported := h c (children_subset_nodes root m hm hc) d hdc (by simp [isBroken, hs])
        have hbroken := hchildren c hc
        simp [isBroken, hreported] at hbroken
  · have hn := hearlier n hn
    simp only [Bool.not_eq_true', isCulprit, Bool.or_eq_false_iff] at hn ⊢
    exact hn.1

/-- A tree in which errors are reported to the nodes above them has a first error exactly if its root is said to hold
an error. The position is that of the first culprit, which is the first node that shows an error if every node that is
said to hold an error holds one that can be seen. Lines and columns have 32 bits, which are enough if less than
`UInt32.size - 1` bytes stand before the culprit. -/
theorem first_error_is_at_first_culprit (source : Bytes) (root : Node) (h : root.Reports) :
    ((root.firstError? source).isSome = true ↔ root.hasErrors = true) ∧
      (root.hasErrors = true → ∃ m line column, root.firstError? source = some (line, column) ∧
        ((source.take m.start).length + 1 < UInt32.size → source.Pinpoints m.start line column) ∧
        root.nodes.find? isCulprit = some m ∧
        ((∀ n ∈ root.nodes, n.marks.hasError = true → ∃ d ∈ n.nodes, d.showsError = true) →
          root.nodes.find? showsError = some m)) := by
  have hsome : root.blamed?.isSome = root.hasErrors := by rw [isSome_blamed?, h.isBroken_eq]
  refine ⟨by rw [firstError?, Option.isSome_map, hsome], fun he => ?_⟩
  obtain ⟨m, hm⟩ := Option.isSome_iff_exists.mp (hsome.trans he)
  have hfind : root.nodes.find? isCulprit = some m := by rw [← blamed?_eq_find? root h, hm]
  refine ⟨m, _, _, ?_, Bytes.pinpoints_position, hfind, h.find?_showsError hfind⟩
  rw [firstError?, hm, Option.map_some]

/-- The closing bracket on the second line is an error inside a block, and a later one is missing. -/
theorem error_in_block_is_reported_before_missing_bracket :
    let node (kind : String) (start stop : ℕ) (marks : Marks) (children : List Node) : Node :=
      ⟨kind, true, none, start, stop, marks, children⟩
    let broken : Marks := { hasError := true }
    let tree := node "module" 0 12 broken
      [node "pass_statement" 0 4 {} [],
        node "block" 5 8 broken [node "identifier" 5 6 {} [], node "ERROR" 7 8 ⟨true, false, true⟩ []],
        node "call" 9 12 broken [node "identifier" 9 11 {} [], node ")" 12 12 ⟨false, true, true⟩ []]]
    let source : Bytes := "pass\na )\nfn(".toUTF8.data.toList
    tree.Reports ∧ ∃ m, tree.nodes.find? showsError = some m ∧ m.kind = "ERROR" ∧ source.Pinpoints m.start 2 3 ∧
      tree.firstError? source = some (2, 3) := by
  intro node broken tree source
  have hr : tree.Reports := by decide +kernel
  have hseen : ∀ n ∈ tree.nodes, n.marks.hasError = true → ∃ d ∈ n.nodes, d.showsError = true := by decide +kernel
  have hposition : tree.firstError? source = some (2, 3) := by decide +kernel
  have hkind : (tree.nodes.find? showsError).map (·.kind) = some "ERROR" := by decide +kernel
  obtain ⟨-, hfirst⟩ := first_error_is_at_first_culprit source tree hr
  obtain ⟨m, line, column, hp, hpoint, -, hm⟩ := hfirst rfl
  obtain ⟨rfl, rfl⟩ := Prod.mk.inj (Option.some.inj (hp.symm.trans hposition))
  rw [hm hseen] at hkind
  have hlength : source.length + 1 < UInt32.size := by decide +kernel
  have hbefore := List.length_take_le' m.start source
  exact ⟨hr, m, hm hseen, Option.some.inj hkind, hpoint (by omega), hposition⟩

/-- What is missing at the end of a line of `UInt32.size - 1` bytes is in a column that 32 bits do not hold. -/
theorem first_error_behind_longest_line_has_column_zero :
    let length := UInt32.size - 1
    let source : Bytes := List.replicate length 120
    let missing : Node := ⟨")", false, none, length, length, ⟨false, true, true⟩, []⟩
    let root : Node := ⟨"module", true, none, 0, length, ⟨false, false, true⟩, [missing]⟩
    root.Reports ∧ root.nodes.find? isCulprit = some missing ∧ root.firstError? source = some (1, 0) ∧
      ¬ source.Pinpoints missing.start 1 0 := by
  intro length source missing root
  have hline : Bytes.newline ∉ source := fun hm => absurd (List.eq_of_mem_replicate hm) (by decide)
  have hposition : source.position length = ⟨0, length⟩ :=
    Bytes.position_of_newline_notMem hline (List.length_replicate ..).ge
  refine ⟨by decide +kernel, rfl, ?_, Bytes.not_pinpoints_column_zero⟩
  have hfirst : root.firstError? source = some (UInt32.ofNat (source.position length).line + 1,
      UInt32.ofNat (source.position length).column + 1) := rfl
  rw [hfirst, hposition]
  decide

end SourceAtlas.Node
