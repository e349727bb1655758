import SourceAtlas.Proofs.Text.Occurrences
import SourceAtlas.Proofs.Text.Words

namespace SourceAtlas.Text

variable {sep : Char} {a b cs w : List Char} {parts : List (List Char)}

lemma mem_of_mem_intercalate {x : Char} {sep : List Char} (h : x ∈ sep.intercalate parts) :
    x ∈ sep ∨ ∃ part ∈ parts, x ∈ part := by
  induction parts with
  | nil => cases h
  | cons part parts ih =>
    by_cases hn : parts = []
    · rw [hn, List.intercalate_singleton] at h
      exact .inr ⟨part, List.mem_cons_self, h⟩
    · rw [List.intercalate_cons_of_ne_nil hn, List.append_assoc] at h
      rcases List.mem_append.mp h with h | h
      · exact .inr ⟨part, List.mem_cons_self, h⟩
      · rcases List.mem_append.mp h with h | h
        · exact .inl h
        · obtain hs | ⟨other, ho, hx⟩ := ih h
          · exact .inl hs
          · exact .inr ⟨other, List.mem_cons_of_mem _ ho, hx⟩

lemma head?_splitOn_append_cons (sep : Char) (a b : List Char) :
    (List.splitOn sep (a ++ sep :: b)).head? = (a.splitOn sep).head? := by
  obtain ⟨first, more, hs⟩ := List.exists_cons_of_ne_nil (List.splitOn_ne_nil sep a)
  rw [List.splitOn_append_cons_self, hs]
  rfl

lemma take_two_splitOn_append_cons (h : sep ∈ a) (b : List Char) :
    (List.splitOn sep (a ++ sep :: b)).take 2 = (a.splitOn sep).take 2 := by
  obtain ⟨front, rest, rfl⟩ := List.append_of_mem h
  have hfront := List.length_pos_iff.mpr (List.splitOn_ne_nil sep front)
  have hrest := List.length_pos_iff.mpr (List.splitOn_ne_nil sep rest)
  rw [List.splitOn_append_cons_self]
  apply List.take_append_of_le_length
  rw [List.splitOn_append_cons_self, List.length_append]
  omega

lemma not_mem_of_mem_splitOn (h : w ∈ cs.splitOn sep) : sep ∉ w := by
  induction cs generalizing w with
  | nil => simp_all
  | cons c cs ih =>
    obtain ⟨piece, pieces, hs⟩ := List.exists_cons_of_ne_nil (List.splitOn_ne_nil sep cs)
    rw [hs] at ih
    rw [List.splitOn_cons_eq_if_modifyHead, hs] at h
    split at h
    · rcases List.mem_cons.mp h with rfl | h
      · exact List.not_mem_nil
      · exact ih h
    · rename_i hc
      rcases List.mem_cons.mp h with rfl | h
      · rw [List.mem_cons, not_or]
        exact ⟨fun he => hc (beq_iff_eq.mpr he.symm), ih List.mem_cons_self⟩
      · exact ih (List.mem_cons_of_mem _ h)

lemma splitOn_append_of_not_mem {piece : List Char} {pieces : List (List Char)} (h : sep ∉ w)
    (hs : cs.splitOn sep = piece :: pieces) : List.splitOn sep (w ++ cs) = (w ++ piece) :: pieces := by
  induction w with
  | nil => exact hs
  | cons c w ih =>
    have hc : ¬ (c == sep) = true := fun he => h (by simp [beq_iff_eq.mp he])
    rw [List.cons_append, List.splitOn_cons_eq_if_modifyHead, if_neg hc, ih fun hm => h (List.mem_cons_of_mem _ hm)]
    rfl

lemma splitOn_flatMap_append (h : ∀ part ∈ parts, sep ∉ part) (b : List Char) :
    List.splitOn sep (parts.flatMap (· ++ [sep]) ++ b) = parts ++ b.splitOn sep := by
  induction parts with
  | nil => rfl
  | cons part parts ih =>
    obtain ⟨hpart, hparts⟩ := List.forall_mem_cons.mp h
    rw [List.flatMap_cons, List.append_assoc, List.append_assoc, List.singleton_append, List.splitOn_append_cons_self,
      List.splitOn_eq_singleton hpart, ih hparts, List.singleton_append, List.cons_append]

lemma exists_splitOn_of_prefix {v y : List Char} {ys : List (List Char)} (h : w <+: v)
    (hv : v.splitOn sep = y :: ys) :
    ∃ x xs, w.splitOn sep = x :: xs ∧ x <+: y ∧ ∀ piece ∈ xs, ∃ other ∈ ys, piece <+: other := by
  induction w generalizing v y ys with
  | nil => exact ⟨[], [], rfl, List.nil_prefix, List.forall_mem_nil _⟩
  | cons c w ih =>
    obtain ⟨rest, rfl⟩ := h
    obtain ⟨y', ys', hs⟩ := List.exists_cons_of_ne_nil (List.splitOn_ne_nil sep (w ++ rest))
    obtain ⟨x, xs, hx, hpre, hall⟩ := ih (List.prefix_append w rest) hs
    rw [List.cons_append, List.splitOn_cons_eq_if_modifyHead, hs] at hv
    rw [List.splitOn_cons_eq_if_modifyHead, hx]
    split at hv
    · rename_i hc
      obtain ⟨rfl, rfl⟩ := List.cons.inj hv
      rw [if_pos hc]
      refine ⟨[], x :: xs, rfl, List.nil_prefix, ?_⟩
      refine List.forall_mem_cons.mpr ⟨⟨y', List.mem_cons_self, hpre⟩, fun piece hp => ?_⟩
      obtain ⟨other, ho, hpo⟩ := hall piece hp
      exact ⟨other, List.mem_cons_of_mem _ ho, hpo⟩
    · rename_i hc
      obtain ⟨rfl, rfl⟩ := List.cons.inj hv
      rw [if_neg hc]
      exact ⟨c :: x, xs, rfl, (List.prefix_cons_inj c).mpr hpre, hall⟩

lemma intercalate_cons_eq_flatMap (sep : Char) (w : List Char) (parts : List (List Char)) :
    [sep].intercalate (w :: parts) = w ++ parts.flatMap (sep :: ·) := by
  induction parts generalizing w with
  | nil => simp
  | cons part parts ih =>
    rw [List.intercalate_cons_of_ne_nil (List.cons_ne_nil part parts), ih part]
    simp

lemma splitOn_prefix_splitOn_iff : a.splitOn sep <+: cs.splitOn sep ↔ a = cs ∨ a ++ [sep] <+: cs := by
  constructor
  · rintro ⟨more, hm⟩
    have hcs := congrArg (List.intercalate [sep]) hm
    rw [List.intercalate_splitOn] at hcs
    by_cases hn : more = []
    · rw [hn, List.append_nil, List.intercalate_splitOn] at hcs
      exact .inl hcs
    · rw [intercalate_append_of_ne_nil [sep] (List.splitOn_ne_nil sep a) hn, List.intercalate_splitOn] at hcs
      exact .inr ⟨[sep].intercalate more, by rw [List.append_assoc, hcs]⟩
  · rintro (rfl | ⟨b, rfl⟩)
    · exact List.prefix_refl _
    · rw [List.append_assoc, List.singleton_append, List.splitOn_append_cons_self]
      exact List.prefix_append _ _

lemma prefix_append_cons_iff (h : sep ∉ w) : w <+: a ++ sep :: b ↔ w <+: a :=
  ⟨prefix_of_prefix_append_cons h, fun hw => hw.trans (List.prefix_append a _)⟩

lemma concat_prefix_append_cons_iff (h : sep ∉ w) : w ++ [sep] <+: a ++ sep :: b ↔ w = a ∨ w ++ [sep] <+: a := by
  constructor
  · intro hp
    obtain ⟨rest, rfl⟩ := prefix_of_prefix_append_cons h ((List.prefix_append w [sep]).trans hp)
    cases rest with
    | nil => exact .inl (List.append_nil w).symm
    | cons c rest =>
      rw [List.append_assoc, List.prefix_append_right_inj] at hp
      obtain rfl := (List.cons_prefix_cons.mp hp).1
      exact .inr ⟨rest, by simp⟩
  · rintro (rfl | hp)
    · exact ⟨b, by simp⟩
    · exact hp.trans (List.prefix_append a _)

end SourceAtlas.Text
