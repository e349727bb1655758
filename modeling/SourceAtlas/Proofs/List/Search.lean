import Mathlib.Tactic.Lemma

namespace SourceAtlas

variable {α : Type} {P : α → Prop} {p : α → Bool} {xs : List α} {x : α}

def FirstWith (P : α → Prop) (xs : List α) (x : α) : Prop :=
  ∃ earlier later, xs = earlier ++ x :: later ∧ P x ∧ ∀ y ∈ earlier, ¬ P y

def LastWith (P : α → Prop) (xs : List α) (x : α) : Prop :=
  ∃ earlier later, xs = earlier ++ x :: later ∧ P x ∧ ∀ y ∈ later, ¬ P y

lemma firstWith_iff_find? (hp : ∀ x, p x = true ↔ P x) : FirstWith P xs x ↔ xs.find? p = some x := by
  rw [List.find?_eq_some_iff_append]
  constructor
  · rintro ⟨earlier, later, he, hx, hn⟩
    refine ⟨(hp x).mpr hx, earlier, later, he, fun y hy => ?_⟩
    simpa using mt (hp y).mp (hn y hy)
  · rintro ⟨hx, earlier, later, he, hn⟩
    refine ⟨earlier, later, he, (hp x).mp hx, fun y hy => ?_⟩
    rw [← hp y]
    simpa using hn y hy

lemma exists_find?_of_mem (hx : x ∈ xs) (hp : p x = true) : ∃ y ∈ xs, xs.find? p = some y ∧ p y = true := by
  obtain ⟨y, hy⟩ := Option.isSome_iff_exists.mp (List.find?_isSome.mpr ⟨x, hx, hp⟩)
  exact ⟨y, List.mem_of_find?_eq_some hy, hy, List.find?_some hy⟩

lemma findSome?_congr {β : Type} {f g : α → Option β} (h : ∀ x ∈ xs, f x = g x) : xs.findSome? f = xs.findSome? g := by
  induction xs with
  | nil => rfl
  | cons x xs ih =>
    obtain ⟨hx, hxs⟩ := List.forall_mem_cons.mp h
    rw [List.findSome?_cons, List.findSome?_cons, hx, ih hxs]

lemma lastWith_iff_firstWith_reverse : LastWith P xs x ↔ FirstWith P xs.reverse x := by
  constructor
  · rintro ⟨earlier, later, rfl, hx, hn⟩
    exact ⟨later.reverse, earlier.reverse, by simp, hx, fun y hy => hn y (List.mem_reverse.mp hy)⟩
  · rintro ⟨later, earlier, he, hx, hn⟩
    refine ⟨earlier.reverse, later.reverse, ?_, hx, fun y hy => hn y (List.mem_reverse.mp hy)⟩
    rw [← List.reverse_reverse xs, he]
    simp

lemma FirstWith.concat (h : FirstWith P xs x) (y : α) : FirstWith P (xs ++ [y]) x := by
  obtain ⟨earlier, later, rfl, hx, hn⟩ := h
  exact ⟨earlier, later ++ [y], by simp, hx, hn⟩

lemma LastWith.concat {y : α} (h : LastWith P xs x) (hy : ¬ P y) : LastWith P (xs ++ [y]) x := by
  obtain ⟨earlier, later, rfl, hx, hn⟩ := h
  refine ⟨earlier, later ++ [y], by simp, hx, fun z hz => ?_⟩
  rcases List.mem_append.mp hz with hz | hz
  · exact hn z hz
  · exact List.mem_singleton.mp hz ▸ hy

lemma FirstWith.mem (h : FirstWith P xs x) : x ∈ xs := by
  obtain ⟨earlier, later, rfl, -⟩ := h
  simp

lemma LastWith.mem (h : LastWith P xs x) : x ∈ xs := by
  obtain ⟨earlier, later, rfl, -⟩ := h
  simp

lemma LastWith.holds (h : LastWith P xs x) : P x := by
  obtain ⟨_, _, -, hx, -⟩ := h
  exact hx

lemma FirstWith.unique {y : α} (hx : FirstWith P xs x) (hy : FirstWith P xs y) : x = y := by
  classical
  have hp : ∀ z, decide (P z) = true ↔ P z := fun z => decide_eq_true_iff
  exact Option.some.inj (((firstWith_iff_find? hp).mp hx).symm.trans ((firstWith_iff_find? hp).mp hy))

lemma LastWith.unique {y : α} (hx : LastWith P xs x) (hy : LastWith P xs y) : x = y :=
  (lastWith_iff_firstWith_reverse.mp hx).unique (lastWith_iff_firstWith_reverse.mp hy)

end SourceAtlas
