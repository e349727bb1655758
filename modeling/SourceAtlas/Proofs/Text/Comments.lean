import SourceAtlas.Proofs.Text.Lines
import SourceAtlas.Text.Comment

namespace SourceAtlas.Text

variable {w cs rest marker opener : List Char} {ls : List (List Char)}

lemma tight_of_mem (h : w ∈ blockOpeners ++ lineMarkers ++ quotes) : w ≠ [] ∧ ∀ c ∈ w, isBlank c = false := by
  have hall : ∀ w ∈ blockOpeners ++ lineMarkers ++ quotes, w ≠ [] ∧ w.any isBlank = false := by decide
  exact (hall w h).imp_right isBlank_of_any

lemma cleanStarred_star (cs : List Char) : cleanStarred (" *".toList ++ cs) = trim cs := by
  have ht : trim (" *".toList ++ cs) = ['*'] ++ dropEnd isBlank cs :=
    calc trim (" *".toList ++ cs)
      _ = trim ([' '] ++ (['*'] ++ cs)) := rfl
      _ = trim (['*'] ++ cs) := trim_blank_append (by simp; decide) _
      _ = ['*'] ++ dropEnd isBlank cs := trim_append_tight (by simp) (by simp; decide) cs
  rw [cleanStarred, ht, after?_append, Option.getD_some, trim_dropEnd]

lemma findSome?_lineMarkers (hm : marker ∈ lineMarkers) (hr : ∀ c ∈ rest.head?, c = ' ') :
    (lineMarkers.findSome? fun other => after? other (marker ++ rest)) = some rest := by
  simp only [lineMarkers, List.mem_cons, List.not_mem_nil, or_false] at hm
  cases rest with
  | nil => rcases hm with rfl | rfl | rfl | rfl <;> rfl
  | cons c rest =>
    obtain rfl := hr c rfl
    rcases hm with rfl | rfl | rfl | rfl <;> rfl

lemma cleanMarked_marker (hm : marker ∈ lineMarkers) (cs : List Char) :
    cleanMarked (marker ++ ' ' :: cs) = trim cs := by
  obtain ⟨hn, ht⟩ := tight_of_mem (w := marker) (by simp [hm])
  have hgap : ∀ c ∈ [' '], isBlank c = true := List.forall_mem_singleton.mpr rfl
  have hspace : ∀ c ∈ (dropEnd isBlank (' ' :: cs)).head?, c = ' ' := by
    intro c hc
    obtain ⟨gap, -, he⟩ := exists_dropEnd_append isBlank (' ' :: cs)
    obtain ⟨tail, ht⟩ := List.head?_eq_some_iff.mp hc
    rw [ht] at he
    exact (List.cons.inj he).1.symm
  rw [cleanMarked, trim_append_tight hn ht, findSome?_lineMarkers hm hspace, Option.getD_some, trim_dropEnd]
  exact trim_blank_append hgap cs

lemma cleanStarred_dropReturn (line : List Char) : cleanStarred (dropReturn line) = cleanStarred line := by
  rw [cleanStarred, cleanStarred, trim_dropReturn]

lemma cleanMarked_dropReturn (line : List Char) : cleanMarked (dropReturn line) = cleanMarked line := by
  rw [cleanMarked, cleanMarked, trim_dropReturn]

def blockComment (opener : List Char) (ls : List (List Char)) : List Char :=
  ['\n'].intercalate (opener :: ls.map (" * ".toList ++ ·) ++ [" */".toList])

def lineComments (marker : List Char) (ls : List (List Char)) : List Char :=
  ['\n'].intercalate (ls.map (marker ++ ' ' :: ·))

def blockBody (ls : List (List Char)) : List Char := ['\n'].intercalate ([] :: ls.map (" * ".toList ++ ·) ++ [[' ']])

lemma blockComment_eq (opener : List Char) (ls : List (List Char)) :
    blockComment opener ls = opener ++ (blockBody ls ++ "*/".toList) := by
  have hopen := intercalate_cons_append ['\n'] opener [] (ls.map (" * ".toList ++ ·) ++ [" */".toList])
  rw [List.append_nil] at hopen
  rw [blockComment, List.cons_append, hopen, ← List.cons_append, blockBody, intercalate_concat _ (by simp),
    intercalate_concat _ (by simp)]
  simp

lemma findSome?_blockOpeners (ho : opener ∈ blockOpeners) (rest : List Char) :
    (blockOpeners.findSome? fun other => after? other (opener ++ '\n' :: rest)) = some ('\n' :: rest) := by
  simp only [blockOpeners, List.mem_cons, List.not_mem_nil, or_false] at ho
  rcases ho with rfl | rfl | rfl <;> rfl

lemma cleanComment_blockComment (ho : opener ∈ blockOpeners) (ls : List (List Char)) :
    cleanComment (blockComment opener ls) =
      ['\n'].intercalate (((lines (blockBody ls)).map cleanStarred).filter (!·.isEmpty)) := by
  obtain ⟨hn, ht⟩ := tight_of_mem (w := opener) (by simp [ho])
  have hclose : dropEnd isBlank (blockBody ls ++ "*/".toList) = blockBody ls ++ "*/".toList :=
    dropEnd_eq_self (by decide) (isBlank_of_any rfl) (blockBody ls)
  have htrim : trim (blockComment opener ls) = opener ++ (blockBody ls ++ "*/".toList) := by
    rw [blockComment_eq, trim_append_tight hn ht, hclose]
  have hbody : blockBody ls ++ "*/".toList =
      '\n' :: (['\n'].intercalate (ls.map (" * ".toList ++ ·) ++ [[' ']]) ++ "*/".toList) := by
    rw [blockBody, List.cons_append, List.intercalate_cons_of_ne_nil (by simp), List.append_assoc]
    rfl
  have hfound : (blockOpeners.findSome? fun other => after? other (trim (blockComment opener ls))) =
      some (blockBody ls ++ "*/".toList) := by
    rw [htrim, hbody, findSome?_blockOpeners ho]
  rw [cleanComment, hfound]
  dsimp only
  rw [before?_append, Option.getD_some]

lemma map_cleanStarred_blockBody (h : ∀ l ∈ ls, '\n' ∉ l) :
    (lines (blockBody ls)).map cleanStarred = [] :: ls.map trim ++ [[]] := by
  have hgap : ∀ c ∈ [' '], isBlank c = true := List.forall_mem_singleton.mpr rfl
  have hparts : ∀ part ∈ [] :: ls.map (" * ".toList ++ ·) ++ [[' ']], '\n' ∉ part := by
    refine List.forall_mem_append.mpr ⟨List.forall_mem_cons.mpr ⟨by simp, ?_⟩, by decide⟩
    exact List.forall_mem_map.mpr fun l hl => by simpa using h l hl
  have hline (l : List Char) : cleanStarred (dropReturn (" * ".toList ++ l)) = trim l := by
    rw [cleanStarred_dropReturn]
    exact (cleanStarred_star (' ' :: l)).trans (trim_blank_append hgap l)
  have hmap : (([] :: ls.map (" * ".toList ++ ·)).map dropReturn).map cleanStarred = [] :: ls.map trim := by
    rw [List.map_map, List.map_cons, List.map_map]
    exact congrArg (List.cons []) (List.map_congr_left fun l _ => hline l)
  rw [blockBody, lines_intercalate (by simp) hparts, List.dropLast_concat, List.getLast?_concat, List.map_append, hmap]
  rfl

lemma findSome?_blockOpeners_eq_none (hm : marker ∈ lineMarkers) (rest : List Char) :
    (blockOpeners.findSome? fun opener => after? opener (marker ++ rest)) = none := by
  simp only [lineMarkers, List.mem_cons, List.not_mem_nil, or_false] at hm
  rcases hm with rfl | rfl | rfl | rfl <;> rfl

lemma exists_lineComments_eq (marker : List Char) (hn : ls ≠ []) : ∃ rest, lineComments marker ls = marker ++ rest := by
  obtain ⟨l, ls, rfl⟩ := List.exists_cons_of_ne_nil hn
  exact ⟨_, intercalate_cons_append ['\n'] marker (' ' :: l) (ls.map (marker ++ ' ' :: ·))⟩

lemma trim_lineComments (hm : marker ∈ lineMarkers) (ls : List (List Char)) (last : List Char) :
    trim (lineComments marker (ls ++ [last])) =
      ['\n'].intercalate (ls.map (marker ++ ' ' :: ·) ++ [marker ++ dropEnd isBlank (' ' :: last)]) := by
  obtain ⟨hn, ht⟩ := tight_of_mem (w := marker) (by simp [hm])
  obtain ⟨rest, hr⟩ := exists_lineComments_eq marker (List.concat_ne_nil last ls)
  have htrim : trim (lineComments marker (ls ++ [last])) = dropEnd isBlank (lineComments marker (ls ++ [last])) := by
    rw [hr, trim_eq_dropEnd hn ht]
  rw [htrim, lineComments, List.map_append, List.map_singleton, intercalate_append _ _ (by simp),
    intercalate_append _ _ (by simp), List.intercalate_singleton, List.intercalate_singleton]
  exact dropEnd_append_tight hn ht _ _

lemma cleanMarked_dropEnd (marker cs : List Char) :
    cleanMarked (marker ++ dropEnd isBlank cs) = cleanMarked (marker ++ cs) := by
  obtain ⟨gap, hg, he⟩ := exists_dropEnd_append isBlank cs
  have ht : trim (marker ++ cs) = trim (marker ++ (dropEnd isBlank cs ++ gap)) :=
    congrArg (fun cs => trim (marker ++ cs)) he
  rw [cleanMarked, cleanMarked, ht, ← List.append_assoc, trim_append_blank hg]

lemma lines_trim_lineComments (hm : marker ∈ lineMarkers) (hls : ∀ l ∈ ls, '\n' ∉ l) {last : List Char}
    (hlast : '\n' ∉ last) :
    lines (trim (lineComments marker (ls ++ [last]))) =
      ls.map (fun l => dropReturn (marker ++ ' ' :: l)) ++ [marker ++ dropEnd isBlank (' ' :: last)] := by
  obtain ⟨hn, ht⟩ := tight_of_mem (w := marker) (by simp [hm])
  have hmarker : '\n' ∉ marker := fun h => absurd (ht _ h) (by decide)
  have hend : '\n' ∉ dropEnd isBlank (' ' :: last) := by
    intro h
    obtain ⟨gap, -, he⟩ := exists_dropEnd_append isBlank (' ' :: last)
    have hmem : '\n' ∈ ' ' :: last := he ▸ List.mem_append_left gap h
    simp [hlast] at hmem
  have hparts : ∀ part ∈ ls.map (marker ++ ' ' :: ·) ++ [marker ++ dropEnd isBlank (' ' :: last)], '\n' ∉ part := by
    refine List.forall_mem_append.mpr ⟨List.forall_mem_map.mpr fun l hl => ?_, List.forall_mem_singleton.mpr ?_⟩
    · simp [hmarker, hls l hl]
    · simp [hmarker, hend]
  rw [trim_lineComments hm, lines_intercalate (by simp) hparts, List.dropLast_concat, List.getLast?_concat,
    List.map_map]
  simp [Option.filter, hn, Function.comp_def]

lemma cleanComment_lineComments (hm : marker ∈ lineMarkers) (h : ∀ l ∈ ls, '\n' ∉ l) :
    cleanComment (lineComments marker ls) = ['\n'].intercalate (ls.map trim) := by
  rcases List.eq_nil_or_concat ls with rfl | ⟨init, last, rfl⟩
  · rfl
  · rw [List.concat_eq_append] at h ⊢
    obtain ⟨hinit, hlast⟩ := List.forall_mem_append.mp h
    obtain ⟨hn, ht⟩ := tight_of_mem (w := marker) (by simp [hm])
    obtain ⟨rest, hr⟩ := exists_lineComments_eq marker (List.concat_ne_nil last init)
    have hnone : (blockOpeners.findSome? fun opener => after? opener (trim (lineComments marker (init ++ [last])))) =
        none := by
      rw [hr, trim_append_tight hn ht, findSome?_blockOpeners_eq_none hm]
    have hline (l : List Char) : cleanMarked (dropReturn (marker ++ ' ' :: l)) = trim l := by
      rw [cleanMarked_dropReturn, cleanMarked_marker hm]
    -- If nothing is written on the last line, the space behind its marker is gone as well.
    have hend : cleanMarked (marker ++ dropEnd isBlank (' ' :: last)) = trim last := by
      rw [cleanMarked_dropEnd, cleanMarked_marker hm]
    rw [cleanComment, hnone]
    dsimp only
    rw [lines_trim_lineComments hm hinit (hlast last List.mem_cons_self)]
    simp only [List.map_append, List.map_map, List.map_cons, List.map_nil, hend, Function.comp_def, hline]

/-- A text between single quotes that it does not hold never reads as one between triple quotes. -/
lemma after?_triple_eq_none {q : Char} (h : q ∉ cs) : after? [q, q, q] (q :: (cs ++ [q])) = none := by
  cases cs with
  | nil => simp [after?]
  | cons c cs =>
    have hc : q ≠ c := fun he => h (he ▸ List.mem_cons_self)
    simp [after?, hc]

lemma findSome?_quotes {quote : List Char} (hq : quote ∈ quotes) (h : ∀ q, quote = [q] → q ∉ cs) :
    (quotes.findSome? fun other => (after? other (quote ++ (cs ++ quote))).bind (before? other)) = some cs := by
  have hinner : (after? quote (quote ++ (cs ++ quote))).bind (before? quote) = some cs := by
    rw [after?_append, Option.bind_some, before?_append]
  simp only [quotes, List.mem_cons, List.not_mem_nil, or_false] at hq
  rcases hq with rfl | rfl | rfl | rfl
  · rw [quotes, List.findSome?_cons, hinner]
  · have hdouble : after? "\"\"\"".toList ("'''".toList ++ (cs ++ "'''".toList)) = none := rfl
    simp only [quotes, List.findSome?_cons, hdouble, Option.bind_none, hinner]
  · have hdouble : after? "\"\"\"".toList ("\"".toList ++ (cs ++ "\"".toList)) = none :=
      after?_triple_eq_none (h '"' rfl)
    have hsingle : after? "'''".toList ("\"".toList ++ (cs ++ "\"".toList)) = none := rfl
    simp only [quotes, List.findSome?_cons, hdouble, hsingle, Option.bind_none, hinner]
  · have hdouble : after? "\"\"\"".toList ("'".toList ++ (cs ++ "'".toList)) = none := rfl
    have hsingle : after? "'''".toList ("'".toList ++ (cs ++ "'".toList)) = none := after?_triple_eq_none (h '\'' rfl)
    have hother : after? "\"".toList ("'".toList ++ (cs ++ "'".toList)) = none := rfl
    simp only [quotes, List.findSome?_cons, hdouble, hsingle, hother, Option.bind_none, hinner]

lemma cleanDocstring_quoted {quote : List Char} (hq : quote ∈ quotes) (h : ∀ q, quote = [q] → q ∉ cs) :
    cleanDocstring (quote ++ cs ++ quote) = trim cs := by
  obtain ⟨hn, ht⟩ := tight_of_mem (w := quote) (by simp [hq])
  have htrim : trim (quote ++ (cs ++ quote)) = quote ++ (cs ++ quote) := by
    rw [trim_append_tight hn ht, dropEnd_eq_self hn ht]
  rw [List.append_assoc, cleanDocstring, htrim, findSome?_quotes hq h, Option.getD_some]

/-- Cleaning gives back what was written as a comment or a documentation string, also when the text itself looks like
a marker. A block comment does not keep empty lines; line comments do. -/
theorem cleaning_gives_back_written_text (ls : List (List Char)) (hls : ∀ l ∈ ls, trim l = l ∧ '\n' ∉ l)
    (d : List Char) (hd : trim d = d) :
    ((∀ l ∈ ls, l ≠ []) → ∀ opener ∈ ["/**".toList, "/*!".toList, "/*".toList],
      cleanComment (blockComment opener ls) = ['\n'].intercalate ls) ∧
    (∀ marker ∈ ["///".toList, "//!".toList, "//".toList, "#".toList],
      cleanComment (lineComments marker ls) = ['\n'].intercalate ls) ∧
    (∀ quote ∈ ["\"\"\"".toList, "'''".toList], cleanDocstring (quote ++ d ++ quote) = d) ∧
    (∀ q ∈ ['"', '\''], q ∉ d → cleanDocstring ([q] ++ d ++ [q]) = d) := by
  have htrim : ls.map trim = ls := (List.map_congr_left fun l hl => (hls l hl).1).trans (List.map_id' ls)
  have hline : ∀ l ∈ ls, '\n' ∉ l := fun l hl => (hls l hl).2
  refine ⟨fun hfull opener ho => ?_, fun marker hm => ?_, fun quote hq => ?_, fun q hq hn => ?_⟩
  · have hkeep : ([] :: ls ++ [[]]).filter (!·.isEmpty) = ls := by
      simpa [List.filter_eq_self] using hfull
    rw [cleanComment_blockComment ho, map_cleanStarred_blockBody hline, htrim, hkeep]
  · rw [cleanComment_lineComments hm hline, htrim]
  · have htriple : ∀ quote ∈ ["\"\"\"".toList, "'''".toList], quote ∈ quotes ∧ quote.length ≠ 1 := by decide
    obtain ⟨hmem, hlen⟩ := htriple quote hq
    rw [cleanDocstring_quoted hmem fun q he => absurd (congrArg List.length he) hlen, hd]
  · have hsingle : ∀ q ∈ ['"', '\''], [q] ∈ quotes := by simp [quotes]
    have hout : ∀ q', [q] = [q'] → q' ∉ d := fun q' he => List.singleton_inj.mp he ▸ hn
    rw [cleanDocstring_quoted (hsingle q hq) hout, hd]

theorem lines_that_look_like_markers_are_kept :
    let ls := ["* item */".toList, "/// # note".toList]
    let d := "it's".toList
    ((∀ l ∈ ls, trim l = l ∧ '\n' ∉ l) ∧ trim d = d ∧ (∀ l ∈ ls, l ≠ []) ∧ '"' ∉ d) ∧
      cleanComment (blockComment "/**".toList ls) = ['\n'].intercalate ls ∧
      cleanComment (lineComments "//".toList ls) = ['\n'].intercalate ls ∧
      cleanDocstring ("'''".toList ++ d ++ "'''".toList) = d ∧ cleanDocstring (['"'] ++ d ++ ['"']) = d := by
  intro ls d
  have hls : ∀ l ∈ ls, trim l = l ∧ '\n' ∉ l := by decide
  have hd : trim d = d := by decide
  have hfull : ∀ l ∈ ls, l ≠ [] := by decide
  have hq : '"' ∉ d := by decide
  obtain ⟨hblock, hmarked, htriple, hsingle⟩ := cleaning_gives_back_written_text ls hls d hd
  exact ⟨⟨hls, hd, hfull, hq⟩, hblock hfull _ (by decide), hmarked _ (by decide), htriple _ (by decide),
    hsingle _ (by decide) hq⟩

end SourceAtlas.Text
