import SourceAtlas.Proofs.Signature.Commas
import SourceAtlas.Proofs.Signature.Normalize

namespace SourceAtlas.Signature

variable {a t gap before : List Char} {ts : List (List Char)}

/-- A text that can stand in a list of parameters: its commas are inside angle brackets, and not all of it is
qualifiers. -/
structure Listable (t : List Char) : Prop where
  enclosed : commasEnclosed 0 t = true
  closed : openAfter 0 t = 0
  kept : normalize t ≠ []

def writeList (ts : List (List Char)) : List Char := [',', ' '].intercalate ts

lemma parse_eq (ha : '(' ∉ a) (ht : ')' ∉ t) (inner : List Char) :
    parse (a ++ '(' :: (inner ++ ')' :: t)) = ⟨nameOf a, parametersOf inner⟩ := by
  have hopen : ∀ c ∈ a, (c != '(') = true := fun c hc => bne_iff_ne.mpr fun h => ha (h ▸ hc)
  have hclose : ∀ c ∈ t, (c != ')') = true := fun c hc => bne_iff_ne.mpr fun h => ht (h ▸ hc)
  have hend : Text.dropEnd (· != ')') (inner ++ ')' :: t) = inner ++ [')'] :=
    Text.dropEnd_append_mark rfl hclose inner
  simp [parse, List.dropWhile_append_of_pos hopen, List.takeWhile_append_of_pos hopen, hend]

lemma blank_nil : ∀ c ∈ ([] : List Char), Text.isBlank c = true := nofun

lemma filter_blank (h : ∀ c ∈ gap, Text.isBlank c = true) : gap.filter isDelimiter = [] := by
  refine List.filter_eq_nil_iff.mpr fun c hc hd => ?_
  have hb := h c hc
  rw [isBlank_of_isDelimiter hd] at hb
  cases hb

section

variable (hg : ∀ c ∈ gap, Text.isBlank c = true) (hb : ∀ c ∈ before, Text.isBlank c = true)

include hg hb

lemma filter_normalized (t : List Char) :
    (gap ++ (normalize t ++ before)).filter isDelimiter = t.filter isDelimiter := by
  rw [List.filter_append, List.filter_append, filter_blank hg, filter_blank hb, List.nil_append, List.append_nil,
    filter_normalize (fun _ => isWordChar_of_isDelimiter) (fun _ => isBlank_of_isDelimiter)]

lemma Listable.enclosed_normalized (h : Listable t) : commasEnclosed 0 (gap ++ (normalize t ++ before)) = true := by
  rw [← commasEnclosed_filter, filter_normalized hg hb, commasEnclosed_filter, h.enclosed]

lemma Listable.closed_normalized (h : Listable t) : openAfter 0 (gap ++ (normalize t ++ before)) = 0 := by
  rw [← openAfter_filter, filter_normalized hg hb, openAfter_filter, h.closed]

lemma trim_normalized (t : List Char) : Text.trim (gap ++ (normalize t ++ before)) = normalize t := by
  rw [Text.trim_blank_append hg, Text.trim_append_blank hb, trim_normalize]

end

lemma exists_normalize_writeList (t next : List Char) (ts : List (List Char)) :
    ∃ before gap, (∀ c ∈ before, Text.isBlank c = true) ∧ (∀ c ∈ gap, Text.isBlank c = true) ∧
      normalize (writeList (t :: next :: ts)) =
        normalize t ++ (before ++ ',' :: (gap ++ normalize (writeList (next :: ts)))) := by
  have hw : writeList (t :: next :: ts) = t ++ ',' :: ' ' :: writeList (next :: ts) := by
    simp [writeList]
  obtain ⟨before, gap, hb, hg, he⟩ :=
    exists_normalize_append_mark (x := ',') (by decide) (by decide) t (' ' :: writeList (next :: ts))
  rw [normalize_cons_space] at he
  exact ⟨before, gap, hb, hg, hw ▸ he⟩

lemma map_trim_splitAtCommas (hts : ∀ u ∈ t :: ts, Listable u) (hg : ∀ c ∈ gap, Text.isBlank c = true) :
    (splitAtCommas 0 (gap ++ normalize (writeList (t :: ts)))).map Text.trim = (t :: ts).map normalize := by
  induction ts generalizing t gap with
  | nil =>
    have henclosed := (hts t List.mem_cons_self).enclosed_normalized hg blank_nil
    have htrim := trim_normalized hg blank_nil t
    rw [List.append_nil] at henclosed htrim
    simp [writeList, splitAtCommas_eq_singleton henclosed, htrim]
  | cons next ts ih =>
    obtain ⟨ht, hts⟩ := List.forall_mem_cons.mp hts
    obtain ⟨before, between, hb, hbetween, he⟩ := exists_normalize_writeList t next ts
    have hpieces : gap ++ normalize (writeList (t :: next :: ts)) =
        gap ++ (normalize t ++ before) ++ ',' :: (between ++ normalize (writeList (next :: ts))) := by
      simp [he]
    rw [hpieces, splitAtCommas_append_comma (ht.enclosed_normalized hg hb) (ht.closed_normalized hg hb),
      List.map_cons, ih hts hbetween, trim_normalized hg hb]
    rfl

lemma normalize_writeList_eq_void_iff :
    normalize (writeList ts) = "void".toList ↔ ts.map normalize = ["void".toList] := by
  rcases ts with _ | ⟨t, _ | ⟨next, ts⟩⟩
  · exact iff_of_false (by decide) (by simp)
  · simp [writeList]
  · refine iff_of_false (fun he => ?_) (by simp)
    obtain ⟨before, gap, -, -, hw⟩ := exists_normalize_writeList t next ts
    have hm : ',' ∈ normalize (writeList (t :: next :: ts)) := by simp [hw]
    rw [he] at hm
    exact absurd hm (by decide)

lemma normalize_writeList_ne_nil (hts : ∀ u ∈ t :: ts, Listable u) : normalize (writeList (t :: ts)) ≠ [] := by
  cases ts with
  | nil =>
    rw [writeList, List.intercalate_singleton]
    exact (hts t List.mem_cons_self).kept
  | cons next ts =>
    obtain ⟨before, gap, -, -, hw⟩ := exists_normalize_writeList t next ts
    simp [hw]

/-- Each parameter is read as if it had been normalized alone; only `void` alone is none. -/
lemma parametersOf_writeList (hts : ∀ u ∈ ts, Listable u) (hg : ∀ c ∈ gap, Text.isBlank c = true)
    (hb : ∀ c ∈ before, Text.isBlank c = true) :
    parametersOf (gap ++ (normalize (writeList ts) ++ before)) =
      if ts.map normalize = ["void".toList] then [] else ts.map normalize := by
  rw [parametersOf, trim_normalized hg hb]
  by_cases hvoid : ts.map normalize = ["void".toList]
  · rw [if_pos hvoid]
    exact if_pos (.inr (normalize_writeList_eq_void_iff.mpr hvoid))
  · rw [if_neg hvoid]
    cases ts with
    | nil => rfl
    | cons t ts =>
      have hsome : ¬ (normalize (writeList (t :: ts)) = [] ∨ normalize (writeList (t :: ts)) = "void".toList) :=
        not_or.mpr ⟨normalize_writeList_ne_nil hts, mt normalize_writeList_eq_void_iff.mp hvoid⟩
      have hne : [] ∉ (t :: ts).map normalize := by
        intro hm
        obtain ⟨u, hu, he⟩ := List.mem_map.mp hm
        exact (hts u hu).kept he
      exact (if_neg hsome).trans (splitParameters_map_trim (map_trim_splitAtCommas hts blank_nil) hne)

end SourceAtlas.Signature
