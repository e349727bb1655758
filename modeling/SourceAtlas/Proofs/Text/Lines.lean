import SourceAtlas.Proofs.Text.Splitting

namespace SourceAtlas.Text

variable {a cs : List Char} {parts : List (List Char)}

lemma exists_dropReturn_append (line : List Char) :
    ∃ gap, (∀ c ∈ gap, isBlank c = true) ∧ line = dropReturn line ++ gap := by
  rw [dropReturn, before?]
  split
  · rename_i hs
    obtain ⟨rest, rfl⟩ := List.isSuffixOf_iff_suffix.mp hs
    exact ⟨['\r'], by simp; decide, by simp⟩
  · exact ⟨[], by simp, by simp⟩

lemma trim_dropReturn (line : List Char) : trim (dropReturn line) = trim line := by
  obtain ⟨gap, hg, he⟩ := exists_dropReturn_append line
  have ht := congrArg trim he
  rw [ht, trim_append_blank hg]

lemma lines_intercalate (hn : parts ≠ []) (h : ∀ part ∈ parts, '\n' ∉ part) :
    lines (['\n'].intercalate parts) =
      parts.dropLast.map dropReturn ++ (parts.getLast?.filter (!·.isEmpty)).toList := by
  rw [lines, List.splitOn_intercalate '\n' h hn]

lemma lines_tight (h : '\n' ∉ cs) : lines cs = if cs = [] then [] else [cs] := by
  rw [lines, List.splitOn_eq_singleton h]
  cases cs <;> rfl

lemma lines_append_newline (h : '\n' ∉ a) (b : List Char) : lines (a ++ '\n' :: b) = dropReturn a :: lines b := by
  have hs : List.splitOn '\n' (a ++ '\n' :: b) = a :: b.splitOn '\n' := by
    rw [List.splitOn_append_cons_self, List.splitOn_eq_singleton h, List.singleton_append]
  obtain ⟨piece, pieces, hp⟩ := List.exists_cons_of_ne_nil (List.splitOn_ne_nil '\n' b)
  simp only [lines, hs, hp, List.dropLast_cons_cons, List.getLast?_cons_cons, List.map_cons, List.cons_append]

lemma lines_flatMap_append (h : ∀ part ∈ parts, '\n' ∉ part) (b : List Char) :
    lines (parts.flatMap (· ++ ['\n']) ++ b) = parts.map dropReturn ++ lines b := by
  induction parts with
  | nil => rfl
  | cons part parts ih =>
    obtain ⟨hpart, hparts⟩ := List.forall_mem_cons.mp h
    rw [List.flatMap_cons, List.append_assoc, List.append_assoc, List.singleton_append, lines_append_newline hpart,
      ih hparts, List.map_cons, List.cons_append]

@[elab_as_elim]
lemma induction_on_lines {P : List Char → Prop} (tight : ∀ line, '\n' ∉ line → P line)
    (newline : ∀ line rest, '\n' ∉ line → P rest → P (line ++ '\n' :: rest)) (cs : List Char) : P cs := by
  induction cs using (measure List.length).wf.induction with
  | h cs ih =>
    by_cases hm : '\n' ∈ cs
    · obtain ⟨line, rest, rfl, hl⟩ := List.eq_append_cons_of_mem hm
      apply newline line rest hl
      apply ih rest
      change rest.length < (line ++ '\n' :: rest).length
      simp only [List.length_append, List.length_cons]
      omega
    · exact tight cs hm

end SourceAtlas.Text
