import SourceAtlas.Proofs.Signature.Commas
import SourceAtlas.Proofs.Text.Words

namespace SourceAtlas.Signature

variable {cs part front : List Char} {parts : List (List Char)}

/-- Parts that commas keep apart: their own commas are inside angle brackets, and none but the last leaves a
bracket open. -/
structure Separable (parts : List (List Char)) : Prop where
  enclosed : ∀ part ∈ parts, commasEnclosed 0 part = true
  closed : ∀ part ∈ parts.dropLast, openAfter 0 part = 0

lemma separable_singleton (h : commasEnclosed 0 part = true) : Separable [part] :=
  ⟨by simpa using h, by simp⟩

lemma separable_cons (hn : parts ≠ []) :
    Separable (part :: parts) ↔ commasEnclosed 0 part = true ∧ openAfter 0 part = 0 ∧ Separable parts := by
  constructor
  · intro h
    obtain ⟨henclosed, hparts⟩ := List.forall_mem_cons.mp h.enclosed
    have hclosed := h.closed
    rw [List.dropLast_cons_of_ne_nil hn] at hclosed
    obtain ⟨hopen, hrest⟩ := List.forall_mem_cons.mp hclosed
    exact ⟨henclosed, hopen, hparts, hrest⟩
  · rintro ⟨henclosed, hopen, h⟩
    refine ⟨List.forall_mem_cons.mpr ⟨henclosed, h.enclosed⟩, ?_⟩
    rw [List.dropLast_cons_of_ne_nil hn]
    exact List.forall_mem_cons.mpr ⟨hopen, h.closed⟩

lemma Separable.dropLast (h : Separable parts) : Separable parts.dropLast :=
  ⟨fun part hp => h.enclosed part (List.dropLast_subset _ hp),
    fun part hp => h.closed part (List.dropLast_subset _ hp)⟩

lemma splitAtCommas_spec (cs : List Char) :
    splitAtCommas 0 cs ≠ [] ∧ Separable (splitAtCommas 0 cs) ∧ [','].intercalate (splitAtCommas 0 cs) = cs := by
  -- The induction goes on behind the first comma outside brackets, where the depth is zero again.
  induction cs using (measure List.length).wf.induction with
  | h cs ih =>
    rcases exists_first_comma 0 cs with h | ⟨a, b, rfl, ha, hopen⟩
    · rw [splitAtCommas_eq_singleton h]
      exact ⟨by simp, separable_singleton h, List.intercalate_singleton⟩
    · have hlt : b.length < (a ++ ',' :: b).length := by
        simp only [List.length_append, List.length_cons]
        omega
      obtain ⟨hn, hs, hj⟩ := ih b hlt
      rw [splitAtCommas_append_comma ha hopen]
      refine ⟨by simp, (separable_cons hn).mpr ⟨ha, hopen, hs⟩, ?_⟩
      rw [List.intercalate_cons_of_ne_nil hn, List.append_assoc, hj, List.singleton_append]

lemma splitAtCommas_join (hn : parts ≠ []) (h : Separable parts) :
    splitAtCommas 0 ([','].intercalate parts) = parts := by
  induction parts with
  | nil => exact absurd rfl hn
  | cons part parts ih =>
    by_cases hp : parts = []
    · rw [hp, List.intercalate_singleton]
      exact splitAtCommas_eq_singleton (h.enclosed part List.mem_cons_self)
    · obtain ⟨henclosed, hopen, hs⟩ := (separable_cons hp).mp h
      rw [List.intercalate_cons_of_ne_nil hp, List.append_assoc, List.singleton_append,
        splitAtCommas_append_comma henclosed hopen, ih hp hs]

lemma splitAtCommas_eq_iff :
    splitAtCommas 0 cs = parts ↔ parts ≠ [] ∧ Separable parts ∧ [','].intercalate parts = cs := by
  constructor
  · rintro rfl
    exact splitAtCommas_spec cs
  · rintro ⟨hn, hs, rfl⟩
    exact splitAtCommas_join hn hs

lemma openAfter_join_concat (h : ∀ part ∈ parts, openAfter 0 part = 0) (last : List Char) :
    openAfter 0 ([','].intercalate (parts ++ [last])) = openAfter 0 last := by
  induction parts with
  | nil => rw [List.nil_append, List.intercalate_singleton]
  | cons part parts ih =>
    obtain ⟨hopen, hparts⟩ := List.forall_mem_cons.mp h
    have hcomma : openAfter 0 [','] = 0 := by decide
    rw [List.cons_append, List.intercalate_cons_of_ne_nil (by simp), List.append_assoc, openAfter_append,
      openAfter_append, hopen, hcomma, ih hparts]

lemma separable_concat_nil (hn : parts ≠ []) :
    Separable (parts ++ [[]]) ↔ Separable parts ∧ openAfter 0 ([','].intercalate parts) = 0 := by
  obtain ⟨first, last, rfl⟩ := (List.eq_nil_or_concat parts).resolve_left hn
  rw [List.concat_eq_append]
  constructor
  · intro h
    have hclosed := h.closed
    rw [List.dropLast_concat] at hclosed
    obtain ⟨hfirst, hlast⟩ := List.forall_mem_append.mp hclosed
    have hparts := h.dropLast
    rw [List.dropLast_concat] at hparts
    exact ⟨hparts, by rw [openAfter_join_concat hfirst, hlast last List.mem_cons_self]⟩
  · rintro ⟨h, hopen⟩
    have hfirst := h.closed
    rw [List.dropLast_concat] at hfirst
    rw [openAfter_join_concat hfirst] at hopen
    refine ⟨List.forall_mem_append.mpr ⟨h.enclosed, by simp [commasEnclosed]⟩, ?_⟩
    rw [List.dropLast_concat]
    exact List.forall_mem_append.mpr ⟨hfirst, by simpa using hopen⟩

lemma splitAtCommas_concat_comma (h : openAfter 0 front = 0) :
    splitAtCommas 0 (front ++ [',']) = splitAtCommas 0 front ++ [[]] := by
  obtain ⟨hn, hs, hj⟩ := splitAtCommas_spec front
  refine splitAtCommas_eq_iff.mpr ⟨by simp, (separable_concat_nil hn).mpr ⟨hs, by rw [hj, h]⟩, ?_⟩
  rw [Text.intercalate_concat [','] hn, hj, List.append_nil]

lemma exists_comma_at_end (h : (splitAtCommas 0 cs).getLast? = some []) (hn : cs ≠ []) :
    ∃ front, cs = front ++ [','] ∧ openAfter 0 front = 0 := by
  obtain ⟨init, he⟩ := List.getLast?_eq_some_iff.mp h
  obtain ⟨-, hs, hj⟩ := splitAtCommas_eq_iff.mp he
  have hinit : init ≠ [] := by
    rintro rfl
    exact hn hj.symm
  refine ⟨[','].intercalate init, ?_, ((separable_concat_nil hinit).mp hs).2⟩
  rw [← hj, Text.intercalate_concat [','] hinit, List.append_nil]

lemma separable_splitParameters (cs : List Char) : Separable (splitParameters cs) := by
  have h := (splitAtCommas_spec cs).2.1
  rw [splitParameters]
  by_cases hl : (splitAtCommas 0 cs).getLast? = some []
  · rw [if_pos hl]
    exact h.dropLast
  · rw [if_neg hl]
    exact h

lemma join_splitParameters (cs : List Char) :
    [','].intercalate (splitParameters cs) =
      if cs.getLast? = some ',' ∧ openAfter 0 cs.dropLast = 0 then cs.dropLast else cs := by
  split
  · rename_i h
    obtain ⟨front, rfl⟩ := List.getLast?_eq_some_iff.mp h.1
    rw [List.dropLast_concat] at h ⊢
    have hs : splitParameters (front ++ [',']) = splitAtCommas 0 front := by
      rw [splitParameters, splitAtCommas_concat_comma h.2]
      simp
    rw [hs, (splitAtCommas_spec front).2.2]
  · rename_i h
    by_cases hn : cs = []
    · rw [hn]
      rfl
    · have hl : (splitAtCommas 0 cs).getLast? ≠ some [] := by
        intro hl
        obtain ⟨front, rfl, hopen⟩ := exists_comma_at_end hl hn
        exact h ⟨by simp, by simpa using hopen⟩
      rw [splitParameters, if_neg hl, (splitAtCommas_spec cs).2.2]

lemma splitParameters_join_iff :
    splitParameters ([','].intercalate parts) = parts ↔ Separable parts ∧ ∀ last ∈ parts.getLast?, last ≠ [] := by
  by_cases hn : parts = []
  · subst hn
    exact iff_of_true rfl ⟨⟨nofun, nofun⟩, nofun⟩
  · constructor
    · intro h
      have hs : Separable parts := h ▸ separable_splitParameters _
      refine ⟨hs, ?_⟩
      rintro last hl rfl
      rw [splitParameters, splitAtCommas_join hn hs, if_pos (Option.mem_def.mp hl)] at h
      have hlen := congrArg List.length h
      have hpos := List.length_pos_iff.mpr hn
      rw [List.length_dropLast] at hlen
      omega
    · rintro ⟨hs, hl⟩
      rw [splitParameters, splitAtCommas_join hn hs]
      exact if_neg fun h => hl [] h rfl

/-- The parts of a list are separable, and joining them gives the list back, but for a comma at its end that is
outside brackets. Splitting what was joined gives the parts back exactly if they are separable and the last of
them is not empty. -/
theorem splitting_and_joining_are_inverse (cs : List Char) (parts : List (List Char)) :
    Separable (splitParameters cs) ∧
      [','].intercalate (splitParameters cs) =
        (if cs.getLast? = some ',' ∧ openAfter 0 cs.dropLast = 0 then cs.dropLast else cs) ∧
      (splitParameters ([','].intercalate parts) = parts ↔
        Separable parts ∧ ∀ last ∈ parts.getLast?, last ≠ []) :=
  ⟨separable_splitParameters cs, join_splitParameters cs, splitParameters_join_iff⟩

example :
    splitParameters ">a<b,c>,,d,".toList = [">a<b,c>".toList, [], "d".toList] ∧
      splitParameters "a,b<c,d,".toList = ["a".toList, "b<c,d,".toList] := by
  decide +kernel

end SourceAtlas.Signature
