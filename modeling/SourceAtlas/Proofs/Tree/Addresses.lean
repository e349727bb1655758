import Mathlib.Data.List.Nodup
import SourceAtlas.Proofs.Tree.Below

/-! Addresses tell the places of a tree apart, and a walk through the tree comes to each place at most once. -/

namespace SourceAtlas.Place

variable {root p q r : Place} {above : List Frame} {before ns : List Node} {keep : Node → Bool} {stack : List Place}

lemma above_of_mem_siblings (h : q ∈ siblings above before ns) : q.above = above := by
  induction ns generalizing before with
  | nil => cases h
  | cons n ns ih =>
    rw [siblings] at h
    rcases List.mem_cons.mp h with rfl | h
    · rfl
    · exact ih h

lemma length_before_le_of_mem_siblings (h : q ∈ siblings above before ns) : before.length ≤ q.before.length := by
  induction ns generalizing before with
  | nil => cases h
  | cons n ns ih =>
    rw [siblings] at h
    rcases List.mem_cons.mp h with rfl | h
    · exact Nat.le_refl _
    · exact Nat.le_of_succ_le (ih h)

lemma pairwise_siblings (above : List Frame) (before ns : List Node) :
    (siblings above before ns).Pairwise fun a b => a.before.length < b.before.length := by
  induction ns generalizing before with
  | nil => exact .nil
  | cons n ns ih =>
    rw [siblings, List.pairwise_cons]
    exact ⟨fun q hq => length_before_le_of_mem_siblings hq, ih (n :: before)⟩

lemma address_of_mem_children (h : q ∈ p.children) : q.address = p.address ++ [q.before.length] := by
  rw [address, above_of_mem_siblings h, List.map_cons, List.reverse_cons, address]

lemma pairwise_address_children (p : Place) : p.children.Pairwise fun a b => a.address ≠ b.address := by
  refine (pairwise_siblings _ _ _).imp_of_mem fun {a b} ha hb hlt he => ?_
  rw [address_of_mem_children (p := p) ha, address_of_mem_children (p := p) hb] at he
  have hlength : a.before.length = b.before.length := by simpa using he
  omega

lemma eq_of_mem_children (hq : q ∈ p.children) (hr : r ∈ p.children) (h : q.address = r.address) : q = r :=
  List.inj_on_of_nodup_map (List.pairwise_map.mpr (pairwise_address_children p)) hq hr h

lemma address_prefix_of_holds (h : p.Holds q) : p.address <+: q.address := by
  induction h with
  | refl => exact List.prefix_rfl
  | tail _ hq ih =>
    rw [address_of_mem_children hq]
    exact ih.trans (List.prefix_append _ _)

lemma address_eq_of_concat {i j : ℕ} {a b : List ℕ} (h : a ++ [i] = b ++ [j]) : a = b :=
  (List.append_inj' h rfl).1

lemma eq_of_address_eq (hp : root.Holds p) (hq : root.Holds q) (h : p.address = q.address) : p = q := by
  -- A place below the root has a longer address than the root.
  have hroot {a b : Place} (ha : root.Holds a) (hb : b ∈ a.children) : root.address ≠ b.address := by
    intro he
    have hle := (address_prefix_of_holds ha).length_le
    have hlength := congrArg List.length (he.trans (address_of_mem_children hb))
    rw [List.length_append, List.length_singleton] at hlength
    omega
  induction hp generalizing q with
  | refl =>
    cases hq with
    | refl => rfl
    | tail ha hb => exact absurd h (hroot ha hb)
  | tail ha hb ih =>
    cases hq with
    | refl => exact absurd h.symm (hroot ha hb)
    | tail ha' hb' =>
      have hparent := address_of_mem_children hb ▸ address_of_mem_children hb' ▸ h
      obtain rfl := ih ha' (address_eq_of_concat hparent)
      exact eq_of_mem_children hb hb' h

def Apart (p q : Place) : Prop := ¬ p.address <+: q.address ∧ ¬ q.address <+: p.address

lemma apart_of_mem_children (hq : q ∈ p.children) (hr : r ∈ p.children) (h : q.address ≠ r.address) : q.Apart r := by
  have hlength : q.address.length = r.address.length := by
    simp [address_of_mem_children hq, address_of_mem_children hr]
  exact ⟨fun hpre => h (hpre.eq_of_length hlength), fun hpre => h (hpre.eq_of_length hlength.symm).symm⟩

lemma Apart.child (h : p.Apart q) (hr : r ∈ p.children) : r.Apart q := by
  have hpre := address_prefix_of_holds (holds_of_mem_children hr)
  constructor
  · exact fun hrq => h.1 (hpre.trans hrq)
  · intro hqr
    exact (List.prefix_or_prefix_of_prefix hpre hqr).elim h.1 h.2

lemma pairwise_address_walk (h : stack.Pairwise Apart) :
    (walk keep stack).Pairwise fun a b => a.address ≠ b.address := by
  induction stack using walk.induct keep with
  | case1 =>
    rw [walk]
    exact .nil
  | case2 p stack ih =>
    obtain ⟨hp, hs⟩ := List.pairwise_cons.mp h
    rw [walk, List.pairwise_cons]
    constructor
    · intro q hq he
      obtain ⟨r, hr, hrq⟩ := holds_of_mem_walk hq
      have hpre : r.address <+: p.address := he ▸ address_prefix_of_holds hrq
      rcases List.mem_append.mp hr with hr | hr
      · have hlength := hpre.length_le
        rw [address_of_mem_children (List.mem_filter.mp hr).1, List.length_append, List.length_singleton] at hlength
        omega
      · exact (hp r hr).2 hpre
    · apply ih
      rw [List.pairwise_append]
      refine ⟨?_, hs, fun q hq r hr => (hp r hr).child (List.mem_filter.mp hq).1⟩
      refine ((pairwise_address_children p).filter _).imp_of_mem fun {a b} ha hb hne => ?_
      exact apart_of_mem_children (List.mem_filter.mp ha).1 (List.mem_filter.mp hb).1 hne

lemma pairwise_address_namedDescendants (p : Place) (kinds : List String) :
    (p.namedDescendants kinds).Pairwise fun a b => a.address ≠ b.address :=
  (pairwise_address_walk (List.pairwise_singleton _ p)).filter _

def Reaches (p q : Place) : Prop := Relation.ReflTransGen (fun a b => b ∈ a.namedChildren) p q

lemma mem_walk_named : q ∈ walk (·.named) stack ↔ ∃ p ∈ stack, p.Reaches q := by
  constructor
  · intro h
    induction stack using walk.induct (·.named) with
    | case1 =>
      rw [walk] at h
      cases h
    | case2 p stack ih =>
      rw [walk] at h
      rcases List.mem_cons.mp h with rfl | h
      · exact ⟨q, List.mem_cons_self, .refl⟩
      · obtain ⟨r, hr, hq⟩ := ih h
        rcases List.mem_append.mp hr with hr | hr
        · exact ⟨p, List.mem_cons_self, .head hr hq⟩
        · exact ⟨r, List.mem_cons_of_mem _ hr, hq⟩
  · rintro ⟨p, hp, hq⟩
    induction hq with
    | refl => exact mem_walk hp
    | tail _ hr ih =>
      obtain ⟨hr, hn⟩ := List.mem_filter.mp hr
      exact mem_walk_of_mem_children ih hr hn

lemma mem_namedDescendants {kinds : List String} :
    q ∈ p.namedDescendants kinds ↔ p.Reaches q ∧ q.node.named = true ∧ q.isAny kinds = true := by
  rw [namedDescendants, List.mem_filter, mem_walk_named, Bool.and_eq_true]
  simp

lemma isAny_singleton {kind : String} : q.isAny [kind] = true ↔ q.kind = kind := by
  rw [isAny, List.contains_iff_mem, List.mem_singleton, Place.kind]

lemma mem_namedDescendants_singleton {kind : String} :
    q ∈ p.namedDescendants [kind] ↔ p.Reaches q ∧ q.node.named = true ∧ q.kind = kind := by
  rw [mem_namedDescendants, isAny_singleton]

lemma kind_of_mem_namedDescendants {kind : String} (h : q ∈ p.namedDescendants [kind]) : q.kind = kind :=
  (mem_namedDescendants_singleton.mp h).2.2

end SourceAtlas.Place
