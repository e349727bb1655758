import Mathlib.Data.Nat.Notation
import Mathlib.Tactic.Lemma
import SourceAtlas.Signature

/-! Which commas are outside angle brackets depends on the brackets and commas of the text alone. -/

namespace SourceAtlas.Signature

variable {c : Char} {a b cs : List Char} {depth : ℕ}

def depthAfter (depth : ℕ) (c : Char) : ℕ :=
  if c = '<' then depth + 1 else if c = '>' then depth - 1 else depth

/-- How many angle brackets are open after a text, if `depth` of them are open before it. A closing bracket
without an opening one does not count. -/
def openAfter (depth : ℕ) (cs : List Char) : ℕ := cs.foldl depthAfter depth

def commasEnclosed : (depth : ℕ) → List Char → Bool
  | _, [] => true
  | depth, c :: cs => !(c == ',' && depth == 0) && commasEnclosed (depthAfter depth c) cs

lemma openAfter_append (depth : ℕ) (a b : List Char) :
    openAfter depth (a ++ b) = openAfter (openAfter depth a) b :=
  List.foldl_append

lemma splitAtCommas_cons (h : (c == ',' && depth == 0) = false) :
    splitAtCommas depth (c :: cs) = (splitAtCommas (depthAfter depth c) cs).modifyHead (c :: ·) := by
  rw [splitAtCommas, depthAfter]
  split
  · simp_all
  · split
    · simp_all
    · simp_all

lemma splitAtCommas_append {piece : List Char} {pieces : List (List Char)}
    (ha : commasEnclosed depth a = true) (hb : splitAtCommas (openAfter depth a) b = piece :: pieces) :
    splitAtCommas depth (a ++ b) = (a ++ piece) :: pieces := by
  induction a generalizing depth with
  | nil => exact hb
  | cons c a ih =>
    obtain ⟨hc, ha⟩ := Bool.and_eq_true_iff.mp ha
    rw [List.cons_append, splitAtCommas_cons ((Bool.not_eq_true' _).mp hc), ih ha hb]
    rfl

lemma splitAtCommas_eq_singleton (h : commasEnclosed depth a = true) : splitAtCommas depth a = [a] := by
  simpa using splitAtCommas_append (b := []) h rfl

lemma splitAtCommas_append_comma (h : commasEnclosed depth a = true) (hd : openAfter depth a = 0)
    (b : List Char) : splitAtCommas depth (a ++ ',' :: b) = a :: splitAtCommas 0 b := by
  have hb : splitAtCommas (openAfter depth a) (',' :: b) = [] :: splitAtCommas 0 b := by
    rw [hd]
    rfl
  rw [splitAtCommas_append h hb, List.append_nil]

lemma exists_first_comma (depth : ℕ) (cs : List Char) :
    commasEnclosed depth cs = true ∨
      ∃ a b, cs = a ++ ',' :: b ∧ commasEnclosed depth a = true ∧ openAfter depth a = 0 := by
  induction cs generalizing depth with
  | nil => exact Or.inl rfl
  | cons c cs ih =>
    by_cases hc : (c == ',' && depth == 0) = true
    · obtain ⟨hcomma, hzero⟩ := Bool.and_eq_true_iff.mp hc
      exact Or.inr ⟨[], cs, by rw [beq_iff_eq.mp hcomma, List.nil_append], rfl, beq_iff_eq.mp hzero⟩
    · rcases ih (depthAfter depth c) with h | ⟨a, b, rfl, ha, hopen⟩
      · exact Or.inl (by simp [commasEnclosed, hc, h])
      · exact Or.inr ⟨c :: a, b, rfl, by simp [commasEnclosed, hc, ha], hopen⟩

def isDelimiter (c : Char) : Bool := c == '<' || c == '>' || c == ','

lemma isWordChar_of_isDelimiter (h : isDelimiter c = true) : Text.isWordChar c = false := by
  simp only [isDelimiter, Bool.or_eq_true, beq_iff_eq] at h
  rcases h with (rfl | rfl) | rfl <;> decide

lemma isBlank_of_isDelimiter (h : isDelimiter c = true) : Text.isBlank c = false := by
  simp only [isDelimiter, Bool.or_eq_true, beq_iff_eq] at h
  rcases h with (rfl | rfl) | rfl <;> decide

lemma depthAfter_of_not_delimiter (h : isDelimiter c = false) (depth : ℕ) : depthAfter depth c = depth := by
  simp only [isDelimiter, Bool.or_eq_false_iff, beq_eq_false_iff_ne] at h
  rw [depthAfter, if_neg h.1.1, if_neg h.1.2]

lemma openAfter_filter (depth : ℕ) (cs : List Char) :
    openAfter depth (cs.filter isDelimiter) = openAfter depth cs := by
  induction cs generalizing depth with
  | nil => rfl
  | cons c cs ih =>
    cases hc : isDelimiter c with
    | true =>
      rw [List.filter_cons_of_pos hc, openAfter, openAfter, List.foldl_cons, List.foldl_cons]
      exact ih _
    | false =>
      rw [List.filter_cons_of_neg (by simp [hc]), ih, openAfter, openAfter, List.foldl_cons,
        depthAfter_of_not_delimiter hc]

lemma commasEnclosed_filter (depth : ℕ) (cs : List Char) :
    commasEnclosed depth (cs.filter isDelimiter) = commasEnclosed depth cs := by
  induction cs generalizing depth with
  | nil => rfl
  | cons c cs ih =>
    cases hc : isDelimiter c with
    | true => rw [List.filter_cons_of_pos hc, commasEnclosed, commasEnclosed, ih]
    | false =>
      have hn : (c == ',') = false := (Bool.or_eq_false_iff.mp hc).2
      rw [List.filter_cons_of_neg (by simp [hc]), ih, commasEnclosed, depthAfter_of_not_delimiter hc, hn]
      rfl

lemma splitParameters_map_trim {pieces : List (List Char)} (h : (splitAtCommas 0 cs).map Text.trim = pieces)
    (hn : [] ∉ pieces) : (splitParameters cs).map Text.trim = pieces := by
  have hlast : (splitAtCommas 0 cs).getLast? ≠ some [] := by
    intro hl
    have hm := List.mem_map_of_mem (f := Text.trim) (List.mem_of_mem_getLast? hl)
    exact hn (h ▸ hm)
  rw [splitParameters, if_neg hlast, h]

end SourceAtlas.Signature
