import Mathlib.Data.Nat.Notation
import Mathlib.Tactic.Lemma
import SourceAtlas.Text.Find

namespace SourceAtlas.Text

variable {pat cs a b : List Char} {skip : ℕ} {before : Option Char} {o : Occurrence} {x : Char}

lemma eq_append_drop (h : pat.isPrefixOf cs = true) : cs = pat ++ cs.drop pat.length :=
  (List.prefix_iff_eq_append.mp (List.isPrefixOf_iff_prefix.mp h)).symm

lemma getLast?_cons_or (c : Char) (a : List Char) (before : Option Char) :
    (c :: a).getLast?.or before = a.getLast?.or (some c) := by
  cases a with
  | nil => rfl
  | cons d a => simp [List.getLast?_eq_some_getLast]

lemma exists_of_mem_occurrencesFrom (h : o ∈ occurrencesFrom pat skip before cs) :
    ∃ a, cs = a ++ (pat ++ o.rest) ∧ o.before = a.getLast?.or before := by
  fun_induction occurrencesFrom pat skip before cs with
  | case1 => cases h
  | case2 skip before c cs ih =>
    obtain ⟨a, rfl, hb⟩ := ih h
    exact ⟨c :: a, rfl, by rw [hb, getLast?_cons_or]⟩
  | case3 before c cs hp ih =>
    rcases List.mem_cons.mp h with rfl | h
    · exact ⟨[], eq_append_drop hp, rfl⟩
    · obtain ⟨a, rfl, hb⟩ := ih h
      exact ⟨c :: a, rfl, by rw [hb, getLast?_cons_or]⟩
  | case4 before c cs hp ih =>
    obtain ⟨a, rfl, hb⟩ := ih h
    exact ⟨c :: a, rfl, by rw [hb, getLast?_cons_or]⟩

lemma pairwise_occurrencesFrom (pat : List Char) (skip : ℕ) (before : Option Char) (cs : List Char) :
    (occurrencesFrom pat skip before cs).Pairwise fun x y => y.rest.length < x.rest.length := by
  fun_induction occurrencesFrom pat skip before cs with
  | case1 => exact List.Pairwise.nil
  | case2 skip before c cs ih => exact ih
  | case3 before c cs hp ih =>
    refine List.pairwise_cons.mpr ⟨fun o ho => ?_, ih⟩
    obtain ⟨a, he, -⟩ := exists_of_mem_occurrencesFrom ho
    have hlength := congrArg List.length he
    simp only [List.length_append, List.length_drop, List.length_cons] at hlength ⊢
    omega
  | case4 before c cs hp ih => exact ih

def Occurrence.extend (o : Occurrence) (more : List Char) : Occurrence := ⟨o.before, o.rest ++ more⟩

lemma prefix_of_prefix_append_cons (hx : x ∉ pat) (h : pat <+: a ++ x :: b) : pat <+: a := by
  rcases Nat.lt_or_ge a.length pat.length with hl | hl
  · have hpre : a ++ [x] <+: pat := by
      refine List.prefix_of_prefix_length_le ⟨b, by simp⟩ h ?_
      rw [List.length_append, List.length_singleton]
      exact hl
    exact absurd (hpre.subset (by simp)) hx
  · exact List.prefix_of_prefix_length_le h (List.prefix_append a (x :: b)) hl

lemma occurrencesFrom_append_cons (hn : pat ≠ []) (hx : x ∉ pat) (b : List Char) (hs : skip ≤ a.length) :
    occurrencesFrom pat skip before (a ++ x :: b) =
      (occurrencesFrom pat skip before a).map (·.extend (x :: b)) ++ occurrencesFrom pat 0 (some x) b := by
  -- What is skipped belongs to an occurrence in `a`, so it ends there too.
  fun_induction occurrencesFrom pat skip before a with
  | case1 skip before =>
    obtain rfl := Nat.le_zero.mp hs
    have hp : ¬ pat.isPrefixOf (x :: b) = true := fun h =>
      hn (List.prefix_nil.mp (prefix_of_prefix_append_cons hx (List.isPrefixOf_iff_prefix.mp h)))
    rw [List.nil_append, occurrencesFrom, if_neg hp]
    rfl
  | case2 skip before c a ih => exact ih (Nat.le_of_succ_le_succ hs)
  | case3 before c a hp ih =>
    have hpre := List.isPrefixOf_iff_prefix.mp hp
    have hlong : pat.isPrefixOf (c :: (a ++ x :: b)) = true :=
      List.isPrefixOf_iff_prefix.mpr (hpre.trans (List.prefix_append (c :: a) (x :: b)))
    have hrest : (c :: (a ++ x :: b)).drop pat.length = (c :: a).drop pat.length ++ x :: b :=
      List.drop_append_of_le_length hpre.length_le
    rw [List.cons_append, occurrencesFrom, if_pos hlong, hrest, ih (Nat.sub_le_of_le_add hpre.length_le)]
    rfl
  | case4 before c a hp ih =>
    have hlong : ¬ pat.isPrefixOf (c :: (a ++ x :: b)) = true := fun h =>
      hp (List.isPrefixOf_iff_prefix.mpr
        (prefix_of_prefix_append_cons (a := c :: a) hx (List.isPrefixOf_iff_prefix.mp h)))
    rw [List.cons_append, occurrencesFrom, if_neg hlong, ih (Nat.zero_le _)]

lemma occurrencesFrom_pat_append (hn : pat ≠ []) (before : Option Char) (b : List Char) :
    ∃ more, occurrencesFrom pat 0 before (pat ++ b) = ⟨before, b⟩ :: more := by
  obtain ⟨c, pat, rfl⟩ := List.exists_cons_of_ne_nil hn
  have hp : (c :: pat).isPrefixOf (c :: (pat ++ b)) = true :=
    List.isPrefixOf_iff_prefix.mpr (List.prefix_append (c :: pat) b)
  have hrest : (c :: (pat ++ b)).drop (c :: pat).length = b := List.drop_left
  rw [List.cons_append, occurrencesFrom, if_pos hp, hrest]
  exact ⟨_, rfl⟩

/-- Whether two occurrences of a text never overlap: nothing but the whole of it is both its start and its
end. -/
def Unbordered (pat : List Char) : Prop := ∀ part, part ≠ [] → part <+: pat → part <:+ pat → part = pat

lemma unbordered_of_take_ne_drop (h : ∀ n < pat.length, 0 < n → pat.take n ≠ pat.drop (pat.length - n)) :
    Unbordered pat := by
  intro part hn hp hs
  rcases Nat.lt_or_ge part.length pat.length with hl | hl
  · have htake := List.prefix_iff_eq_take.mp hp
    have hdrop := List.suffix_iff_eq_drop.mp hs
    exact absurd (htake.symm.trans hdrop) (h part.length hl (List.length_pos_iff.mpr hn))
  · exact hp.eq_of_length_le hl

lemma Unbordered.length_le (hu : Unbordered pat) (ha : a ≠ []) (h : pat <+: a ++ (pat ++ b)) :
    pat.length ≤ a.length := by
  rcases Nat.lt_or_ge a.length pat.length with hl | hl
  · obtain ⟨part, rfl⟩ : a <+: pat := List.prefix_of_prefix_length_le (List.prefix_append a _) h
      (Nat.le_of_lt hl)
    have hpart : part <+: a ++ part ++ b := (List.prefix_append_right_inj a).mp h
    have hstart : part <+: a ++ part :=
      List.prefix_of_prefix_length_le hpart (List.prefix_append _ b) (by simp)
    have hne : part ≠ [] := by
      rintro rfl
      simp at hl
    exact absurd (List.append_left_eq_self.mp (hu part hne hstart (List.suffix_append a part)).symm) ha
  · exact hl

lemma mem_occurrencesFrom (hn : pat ≠ []) (hu : Unbordered pat) (b : List Char) (hs : skip ≤ a.length) :
    ⟨a.getLast?.or before, b⟩ ∈ occurrencesFrom pat skip before (a ++ (pat ++ b)) := by
  induction a generalizing skip before with
  | nil =>
    obtain rfl := Nat.le_zero.mp hs
    obtain ⟨more, hm⟩ := occurrencesFrom_pat_append hn before b
    rw [List.nil_append, hm]
    exact List.mem_cons_self
  | cons c a ih =>
    rw [getLast?_cons_or, List.cons_append]
    cases skip with
    | succ skip => exact ih (Nat.le_of_succ_le_succ hs)
    | zero =>
      rw [occurrencesFrom]
      split
      · rename_i hp
        -- An occurrence that starts at `c` ends before the one behind `c :: a`.
        have hle : pat.length ≤ (c :: a).length :=
          hu.length_le (List.cons_ne_nil c a) (List.isPrefixOf_iff_prefix.mp hp)
        exact List.mem_cons_of_mem _ (ih (Nat.sub_le_of_le_add hle))
      · exact ih (Nat.zero_le _)

end SourceAtlas.Text
