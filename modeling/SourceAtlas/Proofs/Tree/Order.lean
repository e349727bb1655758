import SourceAtlas.Proofs.Tree.Addresses

namespace SourceAtlas

variable {a b a' b' : List ℕ}

lemma notAfter_append_left (front a b : List ℕ) : notAfter (front ++ a) (front ++ b) = notAfter a b := by
  induction front with
  | nil => rfl
  | cons i front ih => simp [notAfter, ih]

lemma notAfter_of_prefix (h : a <+: b) : notAfter a b = true := by
  obtain ⟨rest, rfl⟩ := h
  have hsplit := notAfter_append_left a [] rest
  rw [List.append_nil] at hsplit
  rw [hsplit, notAfter]

/-- The ways to two addresses part, and the first of them turns off earlier. -/
def TurnsOff (a b : List ℕ) : Prop :=
  ∃ front i j as bs, a = front ++ i :: as ∧ b = front ++ j :: bs ∧ i < j

lemma TurnsOff.notAfter (h : TurnsOff a b) : notAfter a b = true := by
  obtain ⟨front, i, j, as, bs, rfl, rfl, hlt⟩ := h
  rw [notAfter_append_left, SourceAtlas.notAfter, decide_eq_true hlt, Bool.true_or]

lemma TurnsOff.extend (h : TurnsOff a b) (ha : a <+: a') (hb : b <+: b') : TurnsOff a' b' := by
  obtain ⟨front, i, j, as, bs, rfl, rfl, hlt⟩ := h
  obtain ⟨as', rfl⟩ := ha
  obtain ⟨bs', rfl⟩ := hb
  exact ⟨front, i, j, as ++ as', bs ++ bs', by simp, by simp, hlt⟩

namespace Place

variable {keep : Node → Bool} {stack : List Place}

lemma pairwise_turnsOff_children (p : Place) : p.children.Pairwise fun q r => TurnsOff q.address r.address := by
  refine (pairwise_siblings _ _ _).imp_of_mem fun {q r} hq hr hlt => ?_
  exact ⟨p.address, q.before.length, r.before.length, [], [], address_of_mem_children (p := p) hq,
    address_of_mem_children (p := p) hr, hlt⟩

lemma pairwise_notAfter_walk (h : stack.Pairwise fun p q => TurnsOff p.address q.address) :
    (walk keep stack).Pairwise fun p q => notAfter p.address q.address = true := by
  induction stack using walk.induct keep with
  | case1 =>
    rw [walk]
    exact .nil
  | case2 p stack ih =>
    obtain ⟨hp, hs⟩ := List.pairwise_cons.mp h
    rw [walk, List.pairwise_cons]
    constructor
    · intro q hq
      obtain ⟨r, hr, hrq⟩ := holds_of_mem_walk hq
      have hpre := address_prefix_of_holds hrq
      rcases List.mem_append.mp hr with hr | hr
      · have hchild := address_prefix_of_holds (holds_of_mem_children (List.mem_filter.mp hr).1)
        exact notAfter_of_prefix (hchild.trans hpre)
      · exact ((hp r hr).extend List.prefix_rfl hpre).notAfter
    · apply ih
      rw [List.pairwise_append]
      refine ⟨(pairwise_turnsOff_children p).filter _, hs, fun q hq r hr => ?_⟩
      have hchild := address_prefix_of_holds (holds_of_mem_children (List.mem_filter.mp hq).1)
      exact (hp r hr).extend hchild List.prefix_rfl

lemma pairwise_notAfter_namedDescendants (p : Place) (kinds : List String) :
    (p.namedDescendants kinds).Pairwise fun q r => notAfter q.address r.address = true :=
  (pairwise_notAfter_walk (List.pairwise_singleton _ p)).filter _

end Place

end SourceAtlas
