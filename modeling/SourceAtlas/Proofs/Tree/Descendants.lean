import Mathlib.Tactic.Lemma
import SourceAtlas.Extract.View

namespace SourceAtlas

namespace Place

variable {keep : Node → Bool} {p q : Place} {stack : List Place}

lemma mem_walk (h : q ∈ stack) : q ∈ walk keep stack := by
  induction stack using walk.induct keep with
  | case1 => exact absurd h List.not_mem_nil
  | case2 p stack ih =>
    rw [walk]
    rcases List.mem_cons.mp h with rfl | h
    · exact List.mem_cons_self
    · exact List.mem_cons_of_mem _ (ih (List.mem_append_right _ h))

lemma mem_walk_of_mem_children (h : p ∈ walk keep stack) (hq : q ∈ p.children) (hk : keep q.node = true) :
    q ∈ walk keep stack := by
  induction stack using walk.induct keep with
  | case1 =>
    rw [walk] at h
    exact absurd h List.not_mem_nil
  | case2 r stack ih =>
    rw [walk] at h ⊢
    refine List.mem_cons_of_mem _ ?_
    rcases List.mem_cons.mp h with rfl | h
    · exact mem_walk (List.mem_append_left _ (List.mem_filter.mpr ⟨hq, hk⟩))
    · exact ih h

lemma mem_descendants_of_mem_children {root : Place} (h : p ∈ root.descendants) (hq : q ∈ p.children) :
    q ∈ root.descendants := mem_walk_of_mem_children h hq rfl

end Place

lemma View.exists_run_of_mem_findAll {v : View} {pattern : Pattern} {m : Match} (h : m ∈ v.findAll pattern) :
    ∃ p ∈ v.root.descendants, m ∈ pattern.run p := by
  have hm := (List.mem_filter.mp (List.mem_mergeSort.mp h)).1
  exact List.mem_flatMap.mp hm

lemma Definition.node_mem_descendants {v : View} {kind nameKind : String} {d : Definition}
    (h : d ∈ v.definitions (Definition.pattern kind nameKind)) : d.node ∈ v.root.descendants := by
  obtain ⟨m, hm, hd⟩ := List.mem_filterMap.mp h
  obtain ⟨p, hp, hr⟩ := View.exists_run_of_mem_findAll hm
  have hplace : m.place? "definition" = some p := by
    rw [Definition.pattern, Pattern.ofKind, Pattern.captured, Pattern.run] at hr
    split at hr
    · obtain ⟨inner, _, rfl⟩ := List.mem_map.mp hr
      rfl
    · cases hr
  unfold Definition.ofMatch? at hd
  split at hd
  · rename_i name node _ hnode
    obtain rfl := Option.some.inj hd
    rw [hplace] at hnode
    exact Option.some.inj hnode ▸ hp
  · cases hd

end SourceAtlas
