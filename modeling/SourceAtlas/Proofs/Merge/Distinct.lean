import Mathlib.Data.List.Induction
import SourceAtlas.Distinct
import SourceAtlas.Proofs.List.Search

namespace SourceAtlas

variable {α κ : Type} [BEq κ] {key : α → κ}

lemma mem_of_mem_distinctBy {xs : List α} {x : α} (h : x ∈ distinctBy key xs) : x ∈ xs := by
  induction xs with
  | nil => cases h
  | cons y ys ih =>
    rcases List.mem_cons.mp h with rfl | h
    · exact List.mem_cons_self
    · exact List.mem_cons_of_mem _ (ih (List.mem_filter.mp h).1)

variable [LawfulBEq κ]

lemma mem_map_distinctBy {xs : List α} {k : κ} : k ∈ (distinctBy key xs).map key ↔ k ∈ xs.map key := by
  induction xs with
  | nil => rfl
  | cons x xs ih =>
    simp only [distinctBy, List.map_cons, List.mem_cons]
    refine or_congr_right' fun hk => ?_
    rw [← ih]
    simp only [List.mem_map, List.mem_filter, bne_iff_ne]
    constructor
    · rintro ⟨y, ⟨hy, -⟩, rfl⟩
      exact ⟨y, hy, rfl⟩
    · rintro ⟨y, hy, rfl⟩
      exact ⟨y, ⟨hy, hk⟩, rfl⟩

lemma nodup_map_distinctBy (xs : List α) : ((distinctBy key xs).map key).Nodup := by
  induction xs with
  | nil => exact List.nodup_nil
  | cons x xs ih =>
    rw [distinctBy, List.map_cons, List.nodup_cons]
    refine ⟨fun hm => ?_, ih.sublist (List.filter_sublist.map key)⟩
    obtain ⟨y, hy, he⟩ := List.mem_map.mp hm
    exact bne_iff_ne.mp (List.mem_filter.mp hy).2 he

lemma firstWith_of_mem_distinctBy {xs : List α} {x : α} (h : x ∈ distinctBy key xs) :
    FirstWith (fun y => key y = key x) xs x := by
  induction xs with
  | nil => cases h
  | cons y ys ih =>
    rcases List.mem_cons.mp h with rfl | h
    · exact ⟨[], ys, rfl, rfl, List.forall_mem_nil _⟩
    · obtain ⟨hx, hne⟩ := List.mem_filter.mp h
      obtain ⟨earlier, later, rfl, -, hn⟩ := ih hx
      refine ⟨y :: earlier, later, rfl, rfl, List.forall_mem_cons.mpr ⟨?_, hn⟩⟩
      exact fun he => bne_iff_ne.mp hne he.symm

lemma filter_distinctBy {q : α → Bool} (hq : ∀ x y, key x = key y → q x = q y) (xs : List α) :
    (distinctBy key xs).filter q = distinctBy key (xs.filter q) := by
  induction xs with
  | nil => rfl
  | cons x xs ih =>
    have hswap : ((distinctBy key xs).filter fun y => key y != key x).filter q =
        (distinctBy key (xs.filter q)).filter fun y => key y != key x := by
      rw [← ih]
      simp only [List.filter_filter, Bool.and_comm]
    by_cases hx : q x = true
    · rw [distinctBy, List.filter_cons_of_pos hx, List.filter_cons_of_pos hx, distinctBy, hswap]
    · rw [distinctBy, List.filter_cons_of_neg hx, List.filter_cons_of_neg hx, hswap, List.filter_eq_self]
      intro y hy
      have hqy : q y = true := (List.mem_filter.mp (mem_of_mem_distinctBy hy)).2
      exact bne_iff_ne.mpr fun he => hx (hq x y he.symm ▸ hqy)

def firstOccurrences (key : α → κ) (xs : List α) : List α :=
  (xs.zipIdx.filter fun item => key item.1 ∉ (xs.take item.2).map key).map (·.1)

lemma distinctBy_concat (xs : List α) (x : α) :
    distinctBy key (xs ++ [x]) = distinctBy key xs ++ if key x ∈ xs.map key then [] else [x] := by
  induction xs with
  | nil => rfl
  | cons y ys ih =>
    rw [List.cons_append, distinctBy, ih, List.filter_append, distinctBy, List.cons_append, List.map_cons]
    by_cases hy : key x = key y
    · simp [hy]
    · by_cases hx : key x ∈ ys.map key <;> simp [hy, hx]

lemma firstOccurrences_concat (xs : List α) (x : α) :
    firstOccurrences key (xs ++ [x]) =
      firstOccurrences key xs ++ if key x ∈ xs.map key then [] else [x] := by
  have hfront : (xs.zipIdx.filter fun item => key item.1 ∉ ((xs ++ [x]).take item.2).map key) =
      xs.zipIdx.filter fun item => key item.1 ∉ (xs.take item.2).map key := by
    apply List.filter_congr
    intro item hi
    have hlt : item.2 < xs.length := by
      have := List.snd_lt_add_of_mem_zipIdx hi
      omega
    rw [List.take_append_of_le_length (Nat.le_of_lt hlt)]
  rw [firstOccurrences, List.zipIdx_append, List.filter_append, hfront, List.map_append, firstOccurrences]
  by_cases hx : key x ∈ xs.map key <;> simp [hx]

lemma distinctBy_eq_firstOccurrences (xs : List α) : distinctBy key xs = firstOccurrences key xs := by
  induction xs using List.reverseRecOn with
  | nil => rfl
  | append_singleton xs x ih => rw [distinctBy_concat, firstOccurrences_concat, ih]

end SourceAtlas
