import Mathlib.Data.List.TakeWhile
import Mathlib.Tactic.Lemma
import SourceAtlas.Text.Split

namespace SourceAtlas.Text

variable {p : Char → Bool} {c x : Char} {a b cs w : List Char} {ws : List (List Char)}

def pieces (p : Char → Bool) (cs : List Char) : List (List Char) := (cs.splitOnP p).filter (!·.isEmpty)

lemma pieces_append_cons (hc : p c = true) (a b : List Char) :
    pieces p (a ++ c :: b) = pieces p a ++ pieces p b := by
  simp only [pieces, List.splitOnP_append_cons a b hc, List.filter_append]

lemma pieces_eq_singleton (hn : w ≠ []) (h : ∀ c ∈ w, p c = false) : pieces p w = [w] := by
  simp [pieces, List.splitOnP_eq_singleton h, hn]

lemma words_nil : words [] = [] := rfl

lemma words_append_blank (hc : isBlank c = true) (a b : List Char) :
    words (a ++ c :: b) = words a ++ words b :=
  pieces_append_cons hc a b

lemma words_cons_blank (hc : isBlank c = true) (cs : List Char) : words (c :: cs) = words cs := by
  simpa only [List.nil_append, words_nil] using words_append_blank hc [] cs

lemma words_concat_blank (hc : isBlank c = true) (cs : List Char) : words (cs ++ [c]) = words cs := by
  rw [words_append_blank hc, words_nil, List.append_nil]

lemma words_append_blanks {gap : List Char} (h : ∀ c ∈ gap, isBlank c = true) (a : List Char) :
    words (a ++ gap) = words a := by
  have hgap : words gap = [] := by
    induction gap with
    | nil => rfl
    | cons c gap ih =>
      obtain ⟨hc, hg⟩ := List.forall_mem_cons.mp h
      rw [words_cons_blank hc, ih hg]
  cases gap with
  | nil => rw [List.append_nil]
  | cons c gap =>
    have hc := h c List.mem_cons_self
    rw [words_append_blank hc, ← words_cons_blank hc gap, hgap, List.append_nil]

lemma words_eq_singleton (hn : w ≠ []) (h : ∀ c ∈ w, isBlank c = false) : words w = [w] :=
  pieces_eq_singleton hn h

lemma flatten_splitOnP (p : Char → Bool) (cs : List Char) : (cs.splitOnP p).flatten = cs.filter (!p ·) := by
  induction cs with
  | nil => rfl
  | cons c cs ih =>
    obtain ⟨piece, pieces, hp⟩ := List.exists_cons_of_ne_nil (List.splitOnP_ne_nil p cs)
    rw [List.splitOnP_cons_eq_if_modifyHead]
    split
    · simp_all
    · simp_all

lemma flatten_words (cs : List Char) : (words cs).flatten = cs.filter (!isBlank ·) := by
  simp only [words, List.flatten_filter_not_isEmpty, flatten_splitOnP]

lemma of_mem_words (h : w ∈ words cs) : w ≠ [] ∧ ∀ c ∈ w, isBlank c = false := by
  refine ⟨by simpa using (List.mem_filter.mp h).2, fun c hc => ?_⟩
  have hm : c ∈ cs.filter (!isBlank ·) := flatten_words cs ▸ List.mem_flatten_of_mem h hc
  simpa using (List.mem_filter.mp hm).2

lemma words_ne_nil (h : c ∈ cs) (hc : isBlank c = false) : words cs ≠ [] := by
  intro hw
  have hm : c ∈ cs.filter (!isBlank ·) := List.mem_filter.mpr ⟨h, by simpa using hc⟩
  rw [← flatten_words, hw] at hm
  cases hm

lemma intercalate_append_of_ne_nil (sep : List Char) {rest : List (List Char)} (hn : ws ≠ []) (hr : rest ≠ []) :
    sep.intercalate (ws ++ rest) = sep.intercalate ws ++ (sep ++ sep.intercalate rest) := by
  induction ws with
  | nil => exact absurd rfl hn
  | cons w ws ih =>
    by_cases hp : ws = []
    · subst hp
      simp [List.intercalate_cons_of_ne_nil hr]
    · rw [List.cons_append, List.intercalate_cons_of_ne_nil (by simp [hr]), ih hp, List.intercalate_cons_of_ne_nil hp]
      simp

lemma intercalate_concat (sep : List Char) (hn : ws ≠ []) (last : List Char) :
    sep.intercalate (ws ++ [last]) = sep.intercalate ws ++ (sep ++ last) :=
  (intercalate_append_of_ne_nil sep hn (List.cons_ne_nil last [])).trans (by rw [List.intercalate_singleton])

lemma intercalate_append (sep : List Char) (ws : List (List Char)) {rest : List (List Char)} (h : rest ≠ []) :
    sep.intercalate (ws ++ rest) = ws.flatMap (· ++ sep) ++ sep.intercalate rest := by
  induction ws with
  | nil => rfl
  | cons w ws ih =>
    rw [List.cons_append, List.intercalate_cons_of_ne_nil (List.append_ne_nil_of_right_ne_nil ws h), ih]
    simp

lemma intercalate_cons_append (sep w v : List Char) (ws : List (List Char)) :
    sep.intercalate ((w ++ v) :: ws) = w ++ sep.intercalate (v :: ws) := by
  cases ws <;> simp

lemma words_intercalate (h : ∀ w ∈ ws, w ≠ [] ∧ ∀ c ∈ w, isBlank c = false) : words ([' '].intercalate ws) = ws := by
  induction ws with
  | nil => rfl
  | cons w ws ih =>
    obtain ⟨hw, hws⟩ := List.forall_mem_cons.mp h
    cases ws with
    | nil => rw [List.intercalate_singleton, words_eq_singleton hw.1 hw.2]
    | cons next ws =>
      rw [List.intercalate_cons_cons, List.append_assoc, List.singleton_append, words_append_blank (by decide), ih hws,
        words_eq_singleton hw.1 hw.2, List.singleton_append]

lemma words_collapse (cs : List Char) : words (collapse cs) = words cs :=
  words_intercalate fun _ => of_mem_words

lemma collapse_eq_self (h : ∀ c ∈ w, isBlank c = false) : collapse w = w := by
  by_cases hn : w = []
  · rw [hn]
    rfl
  · rw [collapse, words_eq_singleton hn h, List.intercalate_singleton]

lemma collapse_cons_blank (hc : isBlank c = true) (cs : List Char) : collapse (c :: cs) = collapse cs := by
  rw [collapse, words_cons_blank hc, collapse]

lemma filter_intercalate (sep : List Char) (hp : sep.filter p = []) (ws : List (List Char)) :
    (sep.intercalate ws).filter p = ws.flatten.filter p := by
  induction ws with
  | nil => rfl
  | cons w ws ih =>
    cases ws with
    | nil => simp
    | cons next ws =>
      simp only [List.intercalate_cons_cons, List.filter_append, hp, ih, List.flatten_cons, List.append_nil]

lemma filter_collapse (hp : ∀ c, p c = true → isBlank c = false) (cs : List Char) :
    (collapse cs).filter p = cs.filter p := by
  have hs : p ' ' = false := Bool.eq_false_iff.mpr fun h => absurd (hp _ h) (by decide)
  rw [collapse, filter_intercalate [' '] (by simp [hs]), flatten_words, List.filter_filter]
  congr 1
  funext c
  cases h : p c <;> simp [hp, h]

lemma mem_of_mem_collapse (hx : isBlank x = false) (h : x ∈ collapse cs) : x ∈ cs := by
  have hf := filter_collapse (p := (· == x)) (fun c hc => by rw [beq_iff_eq.mp hc, hx]) cs
  have hm : x ∈ (collapse cs).filter (· == x) := List.mem_filter.mpr ⟨h, beq_self_eq_true x⟩
  exact (List.mem_filter.mp (hf ▸ hm)).1

lemma exists_first_word (cs : List Char) :
    (∀ c ∈ cs, isBlank c = false) ∨
      ∃ w c rest, cs = w ++ c :: rest ∧ isBlank c = true ∧ ∀ c ∈ w, isBlank c = false := by
  induction cs with
  | nil => exact Or.inl (by simp)
  | cons c cs ih =>
    cases hc : isBlank c with
    | true => exact Or.inr ⟨[], c, cs, rfl, hc, by simp⟩
    | false =>
      rcases ih with h | ⟨w, s, rest, rfl, hs, hw⟩
      · exact Or.inl (List.forall_mem_cons.mpr ⟨hc, h⟩)
      · exact Or.inr ⟨c :: w, s, rest, rfl, hs, List.forall_mem_cons.mpr ⟨hc, hw⟩⟩

@[elab_as_elim]
lemma induction_on_words {P : List Char → Prop} (tight : ∀ w, (∀ c ∈ w, isBlank c = false) → P w)
    (blank : ∀ w c rest, (∀ d ∈ w, isBlank d = false) → isBlank c = true → P rest → P (w ++ c :: rest))
    (cs : List Char) : P cs := by
  induction cs using (measure List.length).wf.induction with
  | h cs ih =>
    rcases exists_first_word cs with h | ⟨w, c, rest, rfl, hc, hw⟩
    · exact tight cs h
    · apply blank w c rest hw hc
      apply ih rest
      change rest.length < (w ++ c :: rest).length
      simp only [List.length_append, List.length_cons]
      omega

lemma exists_last_word (a : List Char) :
    (∀ c ∈ a, isBlank c = false) ∨
      ∃ before c w, a = before ++ c :: w ∧ isBlank c = true ∧ ∀ c ∈ w, isBlank c = false := by
  rcases exists_first_word a.reverse with h | ⟨w, c, rest, hr, hc, hw⟩
  · exact Or.inl fun c hc => h c (List.mem_reverse.mpr hc)
  · have ha : a = rest.reverse ++ c :: w.reverse := by
      rw [← List.reverse_reverse a, hr]
      simp
    exact Or.inr ⟨rest.reverse, c, w.reverse, ha, hc, fun c hm => hw c (List.mem_reverse.mp hm)⟩

lemma words_append_tight (hn : w ≠ []) (hw : ∀ c ∈ w, isBlank c = false) (a : List Char) :
    words (a ++ w) = words a ++ [w] ∨
      ∃ first last, words a = first ++ [last] ∧ words (a ++ w) = first ++ [last ++ w] := by
  rcases exists_last_word a with h | ⟨front, c, v, rfl, hc, hv⟩
  · have haw : words (a ++ w) = [a ++ w] :=
      words_eq_singleton (List.append_ne_nil_of_right_ne_nil a hn) (List.forall_mem_append.mpr ⟨h, hw⟩)
    by_cases ha : a = []
    · subst ha
      exact Or.inl haw
    · exact Or.inr ⟨[], a, words_eq_singleton ha h, haw⟩
  · have hvw : words (front ++ c :: v ++ w) = words front ++ [v ++ w] := by
      rw [List.append_assoc, List.cons_append, words_append_blank hc, words_eq_singleton
        (List.append_ne_nil_of_right_ne_nil v hn) (List.forall_mem_append.mpr ⟨hv, hw⟩)]
    by_cases hvn : v = []
    · subst hvn
      exact Or.inl (by rw [hvw, words_append_blank hc, words_nil, List.append_nil, List.nil_append])
    · exact Or.inr ⟨words front, v, by rw [words_append_blank hc, words_eq_singleton hvn hv], hvw⟩

lemma exists_collapse_word_append (hn : w ≠ []) (hw : ∀ c ∈ w, isBlank c = false) (cs : List Char) :
    ∃ gap, (∀ c ∈ gap, isBlank c = true) ∧ collapse (w ++ cs) = w ++ (gap ++ collapse cs) := by
  rcases exists_first_word cs with h | ⟨v, c, rest, rfl, hc, hv⟩
  · refine ⟨[], by simp, ?_⟩
    rw [collapse_eq_self (List.forall_mem_append.mpr ⟨hw, h⟩), collapse_eq_self h, List.nil_append]
  · have hwv : words (w ++ v) = [w ++ v] :=
      words_eq_singleton (List.append_ne_nil_of_left_ne_nil hn v) (List.forall_mem_append.mpr ⟨hw, hv⟩)
    simp only [collapse, ← List.append_assoc, words_append_blank hc, hwv, List.singleton_append]
    rw [intercalate_cons_append]
    by_cases hvn : v = []
    · subst hvn
      cases hr : words rest with
      | nil => exact ⟨[], by simp, by simp [words_nil]⟩
      | cons next more => exact ⟨[' '], by simp; decide, by simp [words_nil]⟩
    · exact ⟨[], by simp, by simp [words_eq_singleton hvn hv]⟩

lemma exists_flatMap_space (ws : List (List Char)) :
    ∃ gap, (∀ c ∈ gap, isBlank c = true) ∧ ws.flatMap (· ++ [' ']) = [' '].intercalate ws ++ gap := by
  rcases List.eq_nil_or_concat ws with rfl | ⟨init, w, rfl⟩
  · exact ⟨[], by simp, rfl⟩
  · refine ⟨[' '], by simp; decide, ?_⟩
    rw [List.concat_eq_append, intercalate_append _ _ (by simp)]
    simp

lemma exists_collapse_append_mark (hx : isBlank x = false) (a b : List Char) :
    ∃ before gap, (∀ c ∈ before, isBlank c = true) ∧ (∀ c ∈ gap, isBlank c = true) ∧
      collapse (a ++ x :: b) = collapse a ++ (before ++ x :: (gap ++ collapse b)) := by
  rcases exists_last_word a with h | ⟨front, c, w, rfl, hc, hw⟩
  · obtain ⟨gap, hg, he⟩ := exists_collapse_word_append (w := a ++ [x]) (by simp)
      (List.forall_mem_append.mpr ⟨h, by simpa using hx⟩) b
    exact ⟨[], gap, by simp, hg, by simpa [collapse_eq_self h] using he⟩
  · obtain ⟨gap, hg, he⟩ := exists_collapse_word_append (w := w ++ [x]) (by simp)
      (List.forall_mem_append.mpr ⟨hw, by simpa using hx⟩) b
    have hne : words (w ++ x :: b) ≠ [] := words_ne_nil (c := x) (by simp) hx
    have hsplit : collapse (front ++ c :: w ++ x :: b) =
        (words front).flatMap (· ++ [' ']) ++ (w ++ x :: (gap ++ collapse b)) := by
      rw [collapse, List.append_assoc, List.cons_append, words_append_blank hc, intercalate_append _ _ hne]
      simpa [collapse] using he
    have hfront : collapse (front ++ c :: w) = [' '].intercalate (words front ++ words w) := by
      rw [collapse, words_append_blank hc]
    by_cases hn : w = []
    · obtain ⟨before, hb, hflat⟩ := exists_flatMap_space (words front)
      refine ⟨before, gap, hb, hg, ?_⟩
      rw [hsplit, hflat, hfront, hn, words_nil, List.append_nil, List.append_assoc, List.nil_append]
    · refine ⟨[], gap, by simp, hg, ?_⟩
      rw [hsplit, hfront, words_eq_singleton hn hw, intercalate_append _ _ (by simp)]
      simp

lemma after?_append (pre cs : List Char) : after? pre (pre ++ cs) = some cs := by
  simp [after?]

lemma after?_eq_some_iff {pre rest : List Char} : after? pre cs = some rest ↔ cs = pre ++ rest := by
  constructor
  · intro h
    rw [after?] at h
    split at h
    · rename_i hp
      rw [← Option.some.inj h]
      exact List.prefix_iff_eq_append.mp (List.isPrefixOf_iff_prefix.mp hp) |>.symm
    · cases h
  · rintro rfl
    exact after?_append pre rest

lemma after?_eq_none_iff : after? a cs = none ↔ ¬ a <+: cs := by
  rw [after?, ← List.isPrefixOf_iff_prefix]
  split <;> simp_all

lemma before?_append (cs post : List Char) : before? post (cs ++ post) = some cs := by
  simp [before?]

lemma dropWhile_eq_self (h : ∀ c ∈ cs.head?, p c = false) : cs.dropWhile p = cs := by
  cases cs with
  | nil => rfl
  | cons c cs => exact List.dropWhile_cons_of_neg (by simpa using h c rfl)

lemma takeWhile_ne_eq_self (h : x ∉ cs) : cs.takeWhile (· != x) = cs :=
  List.takeWhile_eq_self_iff.mpr fun _ hc => bne_iff_ne.mpr fun he => h (he ▸ hc)

lemma takeWhile_ne_append_cons (h : x ∉ cs) (rest : List Char) : (cs ++ x :: rest).takeWhile (· != x) = cs := by
  have hne : ∀ c ∈ cs, (c != x) = true := fun c hc => bne_iff_ne.mpr fun he => h (he ▸ hc)
  simp [List.takeWhile_append_of_pos hne]

lemma dropEnd_append_cons (hx : p x = false) (a b : List Char) : dropEnd p (a ++ x :: b) = a ++ x :: dropEnd p b := by
  have hr : (a ++ x :: b).reverse = b.reverse ++ x :: a.reverse := by simp
  rw [dropEnd, hr, List.dropWhile_append, dropEnd]
  split
  · rename_i hs
    rw [List.isEmpty_iff.mp hs, List.dropWhile_cons_of_neg (by simp [hx])]
    simp
  · simp

lemma dropEnd_append_mark (hx : p x = false) (hb : ∀ c ∈ b, p c = true) (a : List Char) :
    dropEnd p (a ++ x :: b) = a ++ [x] := by
  have hr : ∀ c ∈ b.reverse, p c = true := fun c hc => hb c (List.mem_reverse.mp hc)
  rw [dropEnd_append_cons hx, dropEnd, List.dropWhile_eq_nil_iff.mpr hr, List.reverse_nil]

lemma trim_blank_append {gap : List Char} (h : ∀ c ∈ gap, isBlank c = true) (cs : List Char) :
    trim (gap ++ cs) = trim cs := by
  rw [trim, dropBoth, List.dropWhile_append_of_pos h, trim, dropBoth]

lemma dropEnd_append (h : ∀ c ∈ b, p c = true) (a : List Char) : dropEnd p (a ++ b) = dropEnd p a := by
  have hr : ∀ c ∈ b.reverse, p c = true := fun c hc => h c (List.mem_reverse.mp hc)
  rw [dropEnd, List.reverse_append, List.dropWhile_append_of_pos hr, dropEnd]

lemma dropEnd_append_of_forall (h : ∀ c ∈ a, p c = false) (b : List Char) : dropEnd p (a ++ b) = a ++ dropEnd p b := by
  rcases List.eq_nil_or_concat a with rfl | ⟨front, x, rfl⟩
  · rfl
  · have hx : p x = false := h x (by simp)
    simpa using dropEnd_append_cons hx front b

lemma dropEnd_of_forall (h : ∀ c ∈ a, p c = false) : dropEnd p a = a := by
  have hnil : dropEnd p [] = [] := rfl
  simpa [hnil] using dropEnd_append_of_forall h []

lemma trim_append_blank {gap : List Char} (h : ∀ c ∈ gap, isBlank c = true) (cs : List Char) :
    trim (cs ++ gap) = trim cs := by
  rw [trim, dropBoth, trim, dropBoth, List.dropWhile_append]
  split
  · rename_i hs
    rw [List.isEmpty_iff.mp hs, List.dropWhile_eq_nil_iff.mpr h]
  · exact dropEnd_append h _

lemma trim_eq_self (hh : ∀ c ∈ cs.head?, isBlank c = false) (hl : ∀ c ∈ cs.getLast?, isBlank c = false) :
    trim cs = cs := by
  have hr : ∀ c ∈ cs.reverse.head?, isBlank c = false := by rwa [List.head?_reverse]
  rw [trim, dropBoth, dropWhile_eq_self hh, dropEnd, dropWhile_eq_self hr, List.reverse_reverse]

lemma mem_dropWhile (hx : p x = false) (h : x ∈ cs) : x ∈ cs.dropWhile p := by
  rw [← List.takeWhile_append_dropWhile (p := p) (l := cs)] at h
  rcases List.mem_append.mp h with h | h
  · rw [List.mem_takeWhile_imp h] at hx
    cases hx
  · exact h

lemma mem_trim (hx : isBlank x = false) (h : x ∈ cs) : x ∈ trim cs := by
  rw [trim, dropBoth, dropEnd, List.mem_reverse]
  exact mem_dropWhile hx (List.mem_reverse.mpr (mem_dropWhile hx h))

lemma dropEnd_append_tight (hn : w ≠ []) (hw : ∀ c ∈ w, isBlank c = false) (a b : List Char) :
    dropEnd isBlank (a ++ (w ++ b)) = a ++ (w ++ dropEnd isBlank b) := by
  obtain ⟨front, x, rfl⟩ := (List.eq_nil_or_concat w).resolve_left hn
  have h := dropEnd_append_cons (hw x (by simp)) (a ++ front) b
  simpa using h

lemma dropEnd_eq_self (hn : w ≠ []) (hw : ∀ c ∈ w, isBlank c = false) (a : List Char) :
    dropEnd isBlank (a ++ w) = a ++ w := by
  have h := dropEnd_append_tight hn hw a []
  have hnil : dropEnd isBlank [] = [] := rfl
  rwa [hnil, List.append_nil] at h

lemma isBlank_of_any (h : w.any isBlank = false) : ∀ c ∈ w, isBlank c = false :=
  fun c hc => Bool.eq_false_iff.mpr (List.any_eq_false.mp h c hc)

lemma trim_eq_dropEnd (hn : w ≠ []) (hw : ∀ c ∈ w, isBlank c = false) (cs : List Char) :
    trim (w ++ cs) = dropEnd isBlank (w ++ cs) := by
  have hhead : ∀ c ∈ (w ++ cs).head?, isBlank c = false := by
    obtain ⟨c, w, rfl⟩ := List.exists_cons_of_ne_nil hn
    simpa using hw c List.mem_cons_self
  rw [trim, dropBoth, dropWhile_eq_self hhead]

lemma trim_append_tight (hn : w ≠ []) (hw : ∀ c ∈ w, isBlank c = false) (cs : List Char) :
    trim (w ++ cs) = w ++ dropEnd isBlank cs := by
  rw [trim_eq_dropEnd hn hw]
  exact dropEnd_append_tight hn hw [] cs

lemma exists_dropEnd_append (p : Char → Bool) (cs : List Char) :
    ∃ gap, (∀ c ∈ gap, p c = true) ∧ cs = dropEnd p cs ++ gap := by
  refine ⟨(cs.reverse.takeWhile p).reverse, fun c hc => List.mem_takeWhile_imp (List.mem_reverse.mp hc), ?_⟩
  rw [dropEnd, ← List.reverse_append, List.takeWhile_append_dropWhile, List.reverse_reverse]

lemma trim_dropEnd (cs : List Char) : trim (dropEnd isBlank cs) = trim cs := by
  obtain ⟨gap, hg, he⟩ := exists_dropEnd_append isBlank cs
  have ht := congrArg trim he
  rw [ht, trim_append_blank hg]

lemma filter_dropEnd {q : Char → Bool} (h : ∀ c, p c = true → q c = false) (cs : List Char) :
    (dropEnd p cs).filter q = cs.filter q := by
  obtain ⟨gap, hg, he⟩ := exists_dropEnd_append p cs
  have hnil : gap.filter q = [] := List.filter_eq_nil_iff.mpr fun c hc => by simp [h c (hg c hc)]
  calc (dropEnd p cs).filter q
    _ = (dropEnd p cs ++ gap).filter q := by rw [List.filter_append, hnil, List.append_nil]
    _ = cs.filter q := by rw [← he]

lemma filter_dropWhile {q : Char → Bool} (h : ∀ c, p c = true → q c = false) (cs : List Char) :
    (cs.dropWhile p).filter q = cs.filter q := by
  have hnil : (cs.takeWhile p).filter q = [] :=
    List.filter_eq_nil_iff.mpr fun c hc => by simp [h c (List.mem_takeWhile_imp hc)]
  calc (cs.dropWhile p).filter q
    _ = (cs.takeWhile p ++ cs.dropWhile p).filter q := by rw [List.filter_append, hnil, List.nil_append]
    _ = cs.filter q := by rw [List.takeWhile_append_dropWhile]

end SourceAtlas.Text
