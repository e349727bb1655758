import Mathlib.Computability.StateTransition
import SourceAtlas.Proofs.Tree.Order

namespace SourceAtlas

lemma lex_of_notAfter {a b : List ℕ} (h : notAfter a b = true) (hne : a ≠ b) : List.Lex (· < ·) a b := by
  induction a, b using notAfter.induct with
  | case1 b =>
    cases b with
    | nil => exact absurd rfl hne
    | cons y ys => exact .nil
  | case2 => simp [notAfter] at h
  | case3 x xs y ys ih =>
    simp only [notAfter, Bool.or_eq_true, decide_eq_true_eq, Bool.and_eq_true, beq_iff_eq] at h
    rcases h with hlt | ⟨rfl, h⟩
    · exact .rel hlt
    · exact .cons (ih h fun he => hne (he ▸ rfl))

namespace Place

def isSought (kinds : List String) (p : Place) : Bool := p.node.named && p.isAny kinds

def collect (kinds : List String) (p : Place) : List Place :=
  (if p.isSought kinds then [p] else []) ++ p.namedChildren.attach.flatMap fun q => collect kinds q.1
termination_by p.node.size
decreasing_by exact size_lt_of_mem_namedChildren q.2

lemma collect_eq (kinds : List String) (p : Place) :
    p.collect kinds = (if p.isSought kinds then [p] else []) ++ p.namedChildren.flatMap (collect kinds) := by
  rw [collect, List.flatMap_subtype fun _ _ => rfl, List.unattach_attach]

lemma filter_walk (kinds : List String) (stack : List Place) :
    (walk (·.named) stack).filter (isSought kinds) = stack.flatMap (collect kinds) := by
  induction stack using walk.induct (·.named) with
  | case1 => rw [walk, List.filter_nil, List.flatMap_nil]
  | case2 p stack ih =>
    rw [walk, List.filter_cons, ih, List.flatMap_append, List.flatMap_cons, collect_eq kinds p]
    split <;> simp [namedChildren]

lemma namedDescendants_eq_collect (kinds : List String) (p : Place) :
    p.namedDescendants kinds = p.collect kinds := by
  calc p.namedDescendants kinds
    _ = (walk (·.named) [p]).filter (isSought kinds) := rfl
    _ = [p].flatMap (collect kinds) := filter_walk kinds [p]
    _ = p.collect kinds := List.flatMap_singleton _ _

lemma load_reverse (stack : List Place) : load stack.reverse = load stack := by
  induction stack with
  | nil => rfl
  | cons p stack ih =>
    rw [List.reverse_cons, load_append, ih, load_cons, load_cons, load, Nat.add_zero, Nat.add_comm]

end Place

structure Traversal where
  stack : List Place
  found : List Place

namespace Traversal

variable {kinds : List String} {s t : Traversal}

/-- One round: it takes the last place off the stack, keeps it if it is sought, and puts its named children on the stack
in reverse, so that the first of them comes next. -/
def next? (kinds : List String) (s : Traversal) : Option Traversal :=
  s.stack.getLast?.map fun p =>
    { stack := s.stack.dropLast ++ p.namedChildren.reverse
      found := if p.isSought kinds then s.found ++ [p] else s.found }

lemma next?_eq_none : s.next? kinds = none ↔ s.stack = [] := by
  rw [next?, Option.map_eq_none_iff, List.getLast?_eq_none_iff]

lemma next?_eq_some (h : s.next? kinds = some t) :
    ∃ p stack, s.stack = stack ++ [p] ∧ t.stack = stack ++ p.namedChildren.reverse ∧
      t.found = s.found ++ (if p.isSought kinds then [p] else []) := by
  obtain ⟨p, hp, rfl⟩ := Option.map_eq_some_iff.mp h
  refine ⟨p, s.stack.dropLast, (List.dropLast_append_getLast? p hp).symm, rfl, ?_⟩
  change (if p.isSought kinds then s.found ++ [p] else s.found) = _
  split <;> simp

def outcome (kinds : List String) (s : Traversal) : List Place :=
  s.found ++ s.stack.reverse.flatMap (Place.collect kinds)

lemma outcome_next? (h : s.next? kinds = some t) : t.outcome kinds = s.outcome kinds := by
  obtain ⟨p, stack, hs, ht, hf⟩ := next?_eq_some h
  simp only [outcome, hs, ht, hf, List.reverse_append, List.reverse_reverse, List.reverse_singleton,
    List.singleton_append, List.flatMap_append, List.flatMap_cons, Place.collect_eq kinds p, List.append_assoc]

lemma load_next?_lt (h : s.next? kinds = some t) : Place.load t.stack < Place.load s.stack := by
  obtain ⟨p, stack, hs, ht, -⟩ := next?_eq_some h
  have hchildren := Place.load_kept_children_lt (·.named) p
  rw [hs, ht, Place.load_append, Place.load_append, Place.load_reverse, Place.load_cons]
  exact Nat.add_lt_add_left hchildren _

/-- Every traversal ends, since each round leaves fewer nodes at and below the stack, and it ends with its outcome,
which no round changes. -/
lemma outcome_mem_eval (kinds : List String) (s : Traversal) :
    ⟨[], s.outcome kinds⟩ ∈ StateTransition.eval (next? kinds) s := by
  induction hload : Place.load s.stack using Nat.strongRecOn generalizing s with
  | ind n ih =>
    subst hload
    cases hnext : s.next? kinds with
    | none =>
      have hstack := next?_eq_none.mp hnext
      have hs : (⟨[], s.outcome kinds⟩ : Traversal) = s := by
        rw [outcome, hstack, List.reverse_nil, List.flatMap_nil, List.append_nil, ← hstack]
      rw [hs]
      exact StateTransition.mem_eval.mpr ⟨.refl, hnext⟩
    | some t =>
      have hrest := ih _ (load_next?_lt hnext) t rfl
      rw [outcome_next? hnext] at hrest
      rwa [StateTransition.reaches_eval (.single hnext)]

end Traversal

/-- In every tree and from every place in it, the traversal with a stack ends, and it finds the same places in the same
order as the recursive one: the named nodes of the kinds that can be reached through named nodes, each of them once and
in preorder. -/
theorem traversal_finds_reached_nodes_in_preorder (p : Place) (kinds : List String) :
    ⟨[], p.namedDescendants kinds⟩ ∈ StateTransition.eval (Traversal.next? kinds) ⟨[p], []⟩ ∧
      p.namedDescendants kinds = p.collect kinds ∧
      ((p.namedDescendants kinds).Pairwise fun q r => List.Lex (· < ·) q.address r.address) ∧
      ∀ q, q ∈ p.namedDescendants kinds ↔ p.Reaches q ∧ q.node.named = true ∧ q.kind ∈ kinds := by
  have hcollect := p.namedDescendants_eq_collect kinds
  refine ⟨?_, hcollect, ?_, fun q => ?_⟩
  · have hend := Traversal.outcome_mem_eval kinds ⟨[p], []⟩
    have houtcome : Traversal.outcome kinds ⟨[p], []⟩ = p.namedDescendants kinds := by
      simp [Traversal.outcome, hcollect]
    rwa [houtcome] at hend
  · have horder := p.pairwise_notAfter_namedDescendants kinds
    have hdistinct := p.pairwise_address_namedDescendants kinds
    exact (horder.and hdistinct).imp fun h => lex_of_notAfter h.1 h.2
  · rw [Place.mem_namedDescendants, Place.isAny, List.contains_iff_mem, Place.kind]

-- The name in the token is not found, though it is named and of the kind.
example :
    let name : Node := ⟨"identifier", true, none, 0, 0, {}, []⟩
    let token : Node := ⟨"(", false, none, 0, 0, {}, [name]⟩
    let block : Node := ⟨"block", true, none, 0, 0, {}, [name, token]⟩
    let root : Node := ⟨"file", true, none, 0, 0, {}, [block, name]⟩
    ((Place.ofRoot root).namedDescendants ["identifier", "block"]).map (·.address) = [[0, 0], [0, 0, 0], [0, 1]] := by
  decide +kernel

end SourceAtlas
