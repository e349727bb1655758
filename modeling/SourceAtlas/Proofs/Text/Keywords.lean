import SourceAtlas.Proofs.Text.Words
import SourceAtlas.Text.Find

namespace SourceAtlas.Text

variable {pat key gap w a b rest t : List Char} {x : Char}

lemma beforeFirst_append (h : ∀ t, t ≠ [] → t <:+ a → ¬ pat <+: t ++ b) :
    beforeFirst pat (a ++ b) = a ++ beforeFirst pat b := by
  induction a with
  | nil => rfl
  | cons c a ih =>
    have hc : ¬ pat.isPrefixOf (c :: (a ++ b)) = true := by
      rw [List.isPrefixOf_iff_prefix]
      exact h (c :: a) (List.cons_ne_nil c a) (List.suffix_refl _)
    have ha := ih fun t hn ht => h t hn (ht.trans (List.suffix_cons c a))
    rw [List.cons_append, beforeFirst, if_neg hc, ha, List.cons_append]

lemma beforeFirst_pattern_append (hn : pat ≠ []) (rest : List Char) : beforeFirst pat (pat ++ rest) = [] := by
  obtain ⟨c, pat, rfl⟩ := List.exists_cons_of_ne_nil hn
  have hp : (c :: pat).isPrefixOf (c :: (pat ++ rest)) = true :=
    List.isPrefixOf_iff_prefix.mpr (List.prefix_append (c :: pat) rest)
  rw [List.cons_append, beforeFirst, if_pos hp]

def spaced (key : List Char) : List Char := ' ' :: (key ++ [' '])

lemma spaced_ne_nil (key : List Char) : spaced key ≠ [] := List.cons_ne_nil _ _

lemma takeWhile_word (hw : ∀ c ∈ w, isBlank c = false) (hr : ∀ c ∈ rest.head?, isBlank c = true) :
    (w ++ rest).takeWhile (!isBlank ·) = w := by
  have hpos : ∀ c ∈ w, (!isBlank c) = true := fun c hc => by simp [hw c hc]
  rw [List.takeWhile_append_of_pos hpos]
  cases rest with
  | nil => simp
  | cons c rest => simp [hr c rfl]

lemma concat_prefix_word_iff (hx : isBlank x = true) (hk : ∀ c ∈ key, isBlank c = false)
    (hw : ∀ c ∈ w, isBlank c = false) (hr : ∀ c ∈ rest.head?, isBlank c = true) :
    key ++ [x] <+: w ++ rest ↔ w = key ∧ rest.head? = some x := by
  constructor
  · rintro ⟨more, he⟩
    rw [List.append_assoc, List.singleton_append] at he
    have hwords := congrArg (List.takeWhile (!isBlank ·)) he
    rw [takeWhile_word hk (by simpa using hx), takeWhile_word hw hr] at hwords
    subst hwords
    rw [← List.append_cancel_left he]
    exact ⟨rfl, rfl⟩
  · rintro ⟨rfl, hh⟩
    obtain ⟨more, rfl⟩ := List.head?_eq_some_iff.mp hh
    exact ⟨more, by simp⟩

/-- Among blanks and a word behind them, only the last blank can start an occurrence of a word between spaces. -/
lemma spaced_prefix_iff (hn : key ≠ []) (hk : ∀ c ∈ key, isBlank c = false) (htn : t ≠ [])
    (ht : ∀ c ∈ t, isBlank c = true) (hw : ∀ c ∈ w, isBlank c = false) (hr : ∀ c ∈ rest.head?, isBlank c = true) :
    spaced key <+: t ++ (w ++ rest) ↔ t = [' '] ∧ w = key ∧ rest.head? = some ' ' := by
  obtain ⟨c, t, rfl⟩ := List.exists_cons_of_ne_nil htn
  rw [spaced, List.cons_append, List.cons_prefix_cons]
  cases t with
  | nil =>
    rw [List.nil_append, concat_prefix_word_iff (by decide) hk hw hr]
    simp [eq_comm]
  | cons d t =>
    obtain ⟨e, key, rfl⟩ := List.exists_cons_of_ne_nil hn
    have hne : e ≠ d := by
      rintro rfl
      have hd := ht e (by simp)
      rw [hk e List.mem_cons_self] at hd
      cases hd
    simp [hne]

lemma beforeFirst_spaced (hn : key ≠ []) (hk : ∀ c ∈ key, isBlank c = false) (hg : ∀ c ∈ gap, isBlank c = true)
    (hw : ∀ c ∈ w, isBlank c = false) (hr : ∀ c ∈ rest.head?, isBlank c = true) :
    beforeFirst (spaced key) (gap ++ (w ++ rest)) =
      if gap.getLast? = some ' ' ∧ w = key ∧ rest.head? = some ' ' then gap.dropLast
      else gap ++ (w ++ beforeFirst (spaced key) rest) := by
  split
  · rename_i hcut
    obtain ⟨hlast, rfl, hhead⟩ := hcut
    obtain ⟨front, rfl⟩ := List.getLast?_eq_some_iff.mp hlast
    obtain ⟨more, rfl⟩ := List.head?_eq_some_iff.mp hhead
    have hfront : ∀ t, t ≠ [] → t <:+ front → ¬ spaced w <+: t ++ (spaced w ++ more) := by
      intro t htn ht hp
      have hblank : ∀ c ∈ t ++ [' '], isBlank c = true := by
        intro c hc
        apply hg c
        exact (List.mem_append.mp hc).elim (fun h => by simp [ht.subset h]) (fun h => by simp_all)
      have hspace : t ++ [' '] = [' '] ∧ w = w ∧ (' ' :: more).head? = some ' ' :=
        (spaced_prefix_iff hn hk (by simp) hblank hw hr).mp (by simpa [spaced] using hp)
      exact htn (by simpa using hspace.1)
    have hcut := beforeFirst_append hfront
    rw [beforeFirst_pattern_append (spaced_ne_nil w), List.append_nil] at hcut
    simpa [spaced] using hcut
  · rename_i hkeep
    have hgap : ∀ t, t ≠ [] → t <:+ gap → ¬ spaced key <+: t ++ (w ++ rest) := by
      intro t htn ht hp
      obtain ⟨rfl, hw', hh⟩ := (spaced_prefix_iff hn hk htn (fun c hc => hg c (ht.subset hc)) hw hr).mp hp
      obtain ⟨front, rfl⟩ := ht
      exact hkeep ⟨by simp, hw', hh⟩
    have hword : ∀ t, t ≠ [] → t <:+ w → ¬ spaced key <+: t ++ rest := by
      intro t htn ht hp
      obtain ⟨c, t, rfl⟩ := List.exists_cons_of_ne_nil htn
      obtain rfl := (List.cons_prefix_cons.mp hp).1
      exact absurd (hw ' ' (ht.subset List.mem_cons_self)) (by decide)
    rw [beforeFirst_append hgap, beforeFirst_append hword]

end SourceAtlas.Text
