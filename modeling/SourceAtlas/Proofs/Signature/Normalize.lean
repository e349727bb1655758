import SourceAtlas.Proofs.Text.Spacing
import SourceAtlas.Signature

namespace SourceAtlas

variable {p : Char → Bool} {c x : Char} {a b cs w word : List Char}

lemma Text.isBlank_of_isWordChar (h : isWordChar c = true) : isBlank c = false := by
  have hall : ∀ n ∈ blanks, isWordChar (Char.ofNat n) = false := by decide +kernel
  cases hc : isBlank c with
  | false => rfl
  | true =>
    have hn := hall c.toNat (List.contains_iff_mem.mp hc)
    rw [Char.ofNat_toNat, h] at hn
    cases hn

namespace Signature

lemma keptWord_eq_self (h : w ∉ qualifiers) : keptWord w = w := if_neg (by simpa using h)

lemma mem_of_mem_keptWord (h : c ∈ keptWord w) : c ∈ w := by
  unfold keptWord at h
  split at h
  · cases h
  · exact h

lemma dropQualifiers_append_mark (hx : Text.isWordChar x = false) (word a b : List Char) :
    dropQualifiers word (a ++ x :: b) = dropQualifiers word a ++ x :: dropQualifiers [] b := by
  induction a generalizing word with
  | nil => simp [dropQualifiers, hx]
  | cons c a ih =>
    simp only [List.cons_append, dropQualifiers, ih]
    split <;> simp

lemma dropQualifiers_word (h : ∀ c ∈ w, Text.isWordChar c = true) (word : List Char) :
    dropQualifiers word w = keptWord (word ++ w) := by
  induction w generalizing word with
  | nil => simp [dropQualifiers]
  | cons c w ih =>
    obtain ⟨hc, hw⟩ := List.forall_mem_cons.mp h
    simp [dropQualifiers, hc, ih hw]

lemma mem_of_mem_dropQualifiers (h : c ∈ dropQualifiers word cs) : c ∈ word ∨ c ∈ cs := by
  induction cs generalizing word with
  | nil => exact Or.inl (mem_of_mem_keptWord h)
  | cons d cs ih =>
    rw [dropQualifiers] at h
    split at h
    · simpa [or_assoc] using ih h
    · rcases List.mem_append.mp h with h | h
      · exact Or.inl (mem_of_mem_keptWord h)
      · rcases List.mem_cons.mp h with rfl | h
        · exact Or.inr List.mem_cons_self
        · exact Or.inr (List.mem_cons_of_mem _ (by simpa using ih h))

lemma filter_keptWord (hp : ∀ c, p c = true → Text.isWordChar c = false)
    (hw : ∀ c ∈ word, Text.isWordChar c = true) : (keptWord word).filter p = [] := by
  refine List.filter_eq_nil_iff.mpr fun c hc hpc => ?_
  have h := hw c (mem_of_mem_keptWord hc)
  rw [hp c hpc] at h
  cases h

lemma filter_dropQualifiers (hp : ∀ c, p c = true → Text.isWordChar c = false)
    (hw : ∀ c ∈ word, Text.isWordChar c = true) (cs : List Char) :
    (dropQualifiers word cs).filter p = cs.filter p := by
  induction cs generalizing word with
  | nil => exact filter_keptWord hp hw
  | cons c cs ih =>
    rw [dropQualifiers]
    split
    · rename_i hc
      have hpc : p c = false := Bool.eq_false_iff.mpr fun h => by simp [hp c h] at hc
      rw [ih (by simpa [or_imp, forall_and] using ⟨hw, hc⟩), List.filter_cons_of_neg (by simp [hpc])]
    · rw [List.filter_append, filter_keptWord hp hw, List.nil_append, List.filter_cons, List.filter_cons,
        ih (by simp)]

lemma filter_normalize (hw : ∀ c, p c = true → Text.isWordChar c = false)
    (hb : ∀ c, p c = true → Text.isBlank c = false) (cs : List Char) :
    (normalize cs).filter p = cs.filter p := by
  rw [normalize, Text.filter_collapse hb, filter_dropQualifiers hw (by simp)]

lemma mem_of_mem_normalize (hc : Text.isBlank c = false) (h : c ∈ normalize cs) : c ∈ cs :=
  (mem_of_mem_dropQualifiers (Text.mem_of_mem_collapse hc h)).resolve_left (by simp)

lemma trim_normalize (cs : List Char) : Text.trim (normalize cs) = normalize cs := Text.trim_collapse _

lemma join_words_normalize (cs : List Char) : [' '].intercalate (Text.words (normalize cs)) = normalize cs := by
  rw [normalize, Text.words_collapse]
  rfl

lemma words_normalize_append_space (a b : List Char) :
    Text.words (normalize (a ++ ' ' :: b)) = Text.words (normalize a) ++ Text.words (normalize b) := by
  simp only [normalize, Text.words_collapse]
  rw [dropQualifiers_append_mark (by decide), Text.words_append_blank (by decide)]

lemma words_normalize_ne_nil (h : normalize cs ≠ []) : Text.words (normalize cs) ≠ [] := by
  intro hw
  rw [← join_words_normalize, hw] at h
  exact h rfl

lemma normalize_cons_space (cs : List Char) : normalize (' ' :: cs) = normalize cs := by
  have hd : dropQualifiers [] (' ' :: cs) = ' ' :: dropQualifiers [] cs :=
    dropQualifiers_append_mark (by decide) [] [] cs
  rw [normalize, hd, Text.collapse_cons_blank (by decide), normalize]

lemma exists_normalize_append_mark (hw : Text.isWordChar x = false) (hx : Text.isBlank x = false)
    (a b : List Char) :
    ∃ before gap, (∀ c ∈ before, Text.isBlank c = true) ∧ (∀ c ∈ gap, Text.isBlank c = true) ∧
      normalize (a ++ x :: b) = normalize a ++ (before ++ x :: (gap ++ normalize b)) := by
  rw [normalize, dropQualifiers_append_mark hw]
  exact Text.exists_collapse_append_mark hx _ _

lemma normalize_eq_self (hn : ∀ c ∈ w, Text.isWordChar c = true) (hq : w ∉ qualifiers) : normalize w = w := by
  rw [normalize, dropQualifiers_word hn, List.nil_append, keptWord_eq_self hq]
  exact Text.collapse_eq_self fun c hc => Text.isBlank_of_isWordChar (hn c hc)

end Signature

end SourceAtlas
