import SourceAtlas.Proofs.Signature.Normalize

namespace SourceAtlas

namespace Text

variable {x : Char} {w : List Char}

def runs (cs : List Char) : List (List Char) := pieces (!isWordChar ·) cs

def marks (cs : List Char) : List Char := cs.filter fun c => !isBlank c && !isWordChar c

lemma runs_append_mark (hx : isWordChar x = false) (a b : List Char) : runs (a ++ x :: b) = runs a ++ runs b :=
  pieces_append_cons (by simp [hx]) a b

lemma runs_eq_singleton (hn : w ≠ []) (h : ∀ c ∈ w, isWordChar c = true) : runs w = [w] :=
  pieces_eq_singleton hn fun c hc => by simp [h c hc]

lemma isWordChar_of_isBlank (h : isBlank x = true) : isWordChar x = false := by
  cases hw : isWordChar x with
  | false => rfl
  | true =>
    rw [isBlank_of_isWordChar hw] at h
    cases h

lemma runs_eq_flatMap_words (cs : List Char) : runs cs = (words cs).flatMap runs := by
  have htight {w : List Char} (h : ∀ c ∈ w, isBlank c = false) : runs w = (words w).flatMap runs := by
    by_cases hn : w = []
    · rw [hn]
      rfl
    · rw [words_eq_singleton hn h, List.flatMap_singleton]
  induction cs using induction_on_words with
  | tight w hw => exact htight hw
  | blank w c rest hw hc ih =>
    rw [runs_append_mark (isWordChar_of_isBlank hc), words_append_blank hc, List.flatMap_append, ← htight hw, ← ih]

lemma runs_collapse (cs : List Char) : runs (collapse cs) = runs cs := by
  rw [runs_eq_flatMap_words, words_collapse, ← runs_eq_flatMap_words]

end Text

namespace Signature

variable {cs word : List Char}

structure Normal (cs : List Char) : Prop extends Text.Spaced cs where
  unqualified : ∀ word ∈ Text.runs cs, word ∉ qualifiers

lemma runs_keptWord (hw : ∀ c ∈ word, Text.isWordChar c = true) :
    Text.runs (keptWord word) = (Text.runs word).filter (· ∉ qualifiers) := by
  by_cases hn : word = []
  · rw [hn]
    rfl
  · rw [Text.runs_eq_singleton hn hw]
    by_cases hq : word ∈ qualifiers
    · have hk : keptWord word = [] := if_pos (by simpa using hq)
      rw [hk, List.filter_cons_of_neg (by simpa using hq)]
      rfl
    · rw [keptWord_eq_self hq, Text.runs_eq_singleton hn hw, List.filter_cons_of_pos (by simpa using hq)]
      rfl

/-- Dropping the qualifiers never joins two words, since what surrounds a word stays. -/
lemma runs_dropQualifiers (hw : ∀ c ∈ word, Text.isWordChar c = true) (cs : List Char) :
    Text.runs (dropQualifiers word cs) = (Text.runs (word ++ cs)).filter (· ∉ qualifiers) := by
  induction cs generalizing word with
  | nil => rw [dropQualifiers, List.append_nil, runs_keptWord hw]
  | cons c cs ih =>
    rw [dropQualifiers]
    split
    · rename_i hc
      rw [ih (List.forall_mem_append.mpr ⟨hw, by simpa using hc⟩), List.append_assoc, List.singleton_append]
    · rename_i hc
      have hc : Text.isWordChar c = false := by simpa using hc
      rw [Text.runs_append_mark hc, Text.runs_append_mark hc, runs_keptWord hw, ih (by simp), List.filter_append,
        List.nil_append]

lemma runs_normalize (cs : List Char) :
    Text.runs (normalize cs) = (Text.runs cs).filter (· ∉ qualifiers) := by
  rw [normalize, Text.runs_collapse, runs_dropQualifiers (by simp), List.nil_append]

lemma normal_normalize (cs : List Char) : Normal (normalize cs) where
  toSpaced := Text.spaced_collapse _
  unqualified word hm := by
    rw [runs_normalize] at hm
    simpa using (List.mem_filter.mp hm).2

lemma keptWord_eq_of_runs (hw : ∀ c ∈ word, Text.isWordChar c = true)
    (h : ∀ run ∈ Text.runs word, run ∉ qualifiers) : keptWord word = word := by
  by_cases hn : word = []
  · rw [hn]
    rfl
  · exact keptWord_eq_self (h word (by simp [Text.runs_eq_singleton hn hw]))

lemma dropQualifiers_eq_self (hw : ∀ c ∈ word, Text.isWordChar c = true)
    (h : ∀ run ∈ Text.runs (word ++ cs), run ∉ qualifiers) : dropQualifiers word cs = word ++ cs := by
  induction cs generalizing word with
  | nil =>
    rw [List.append_nil] at h ⊢
    exact keptWord_eq_of_runs hw h
  | cons c cs ih =>
    rw [dropQualifiers]
    split
    · rename_i hc
      have hword : ∀ d ∈ word ++ [c], Text.isWordChar d = true := List.forall_mem_append.mpr ⟨hw, by simpa using hc⟩
      rw [List.append_cons] at h
      rw [ih hword h, ← List.append_cons]
    · rename_i hc
      rw [Text.runs_append_mark (by simpa using hc)] at h
      obtain ⟨hfront, hback⟩ := List.forall_mem_append.mp h
      have hrest : dropQualifiers [] cs = cs := ih (List.forall_mem_nil _) hback
      rw [keptWord_eq_of_runs hw hfront, hrest]

lemma Normal.normalize_eq (h : Normal cs) : normalize cs = cs := by
  have hd : dropQualifiers [] cs = cs := dropQualifiers_eq_self (List.forall_mem_nil _) h.unqualified
  rw [normalize, hd, h.collapse_eq]

/-- A normalized signature is normal. It has the words of the signature but for the qualifiers, and all of its
marks, in order. Normal signatures, and only these, stay as they are, so that normalizing twice is normalizing
once. -/
theorem normalize_computes_normal_form (cs : List Char) :
    Normal (normalize cs) ∧
      Text.runs (normalize cs) = (Text.runs cs).filter (· ∉ qualifiers) ∧
      Text.marks (normalize cs) = Text.marks cs ∧
      (normalize cs = cs ↔ Normal cs) ∧
      normalize (normalize cs) = normalize cs := by
  refine ⟨normal_normalize cs, runs_normalize cs, ?_, ⟨fun h => h ▸ normal_normalize cs, Normal.normalize_eq⟩,
    (normal_normalize cs).normalize_eq⟩
  apply filter_normalize
  · intro c hc
    simpa using (Bool.and_eq_true_iff.mp hc).2
  · intro c hc
    simpa using (Bool.and_eq_true_iff.mp hc).1

-- A qualifier between two words leaves the space, one between two marks leaves nothing.
example :
    normalize " A\tconst b(finally*const&x)noexcept\u00A0 override_ ".toList = "A b(finally*&x) override_".toList := by
  decide +kernel

end Signature

end SourceAtlas
