import SourceAtlas.Proofs.Text.Lines
import SourceAtlas.Proofs.Text.Spacing
import SourceAtlas.Text.Head

namespace SourceAtlas.Text

variable {keep : Bool} {a b cs : List Char}

/-- What a text starts with: all before the first brace or, if semicolons count and one of them comes earlier, all up
to the first semicolon. -/
def headText (keepSemicolon : Bool) (cs : List Char) : List Char :=
  if keepSemicolon = true ∧ ';' ∈ cs.takeWhile (· != '\x7b') then cs.takeWhile (· != ';') ++ [';']
  else cs.takeWhile (· != '\x7b')

lemma headText_cons_brace (keep : Bool) (cs : List Char) : headText keep ('\x7b' :: cs) = [] := by
  simp [headText]

lemma headText_cons_semicolon (cs : List Char) : headText true (';' :: cs) = [';'] := by
  simp [headText]

lemma headText_cons {c : Char} (hb : c ≠ '\x7b') (hs : keep = true → c ≠ ';') (cs : List Char) :
    headText keep (c :: cs) = c :: headText keep cs := by
  have hopen : (c :: cs).takeWhile (· != '\x7b') = c :: cs.takeWhile (· != '\x7b') :=
    List.takeWhile_cons_of_pos (by simpa using hb)
  cases keep with
  | false => simp only [headText, hopen, Bool.false_eq_true, false_and, if_false]
  | true =>
    have hc : c ≠ ';' := hs rfl
    have hm : ';' ∈ c :: cs.takeWhile (· != '\x7b') ↔ ';' ∈ cs.takeWhile (· != '\x7b') := by simp [hc.symm]
    simp only [headText, hopen, hm, true_and]
    split
    · rw [List.takeWhile_cons_of_pos (by simpa using hc), List.cons_append]
    · rfl

lemma getD_cutHead (keep : Bool) (cs : List Char) : (cutHead keep cs).getD cs = headText keep cs := by
  induction cs with
  | nil => simp [cutHead, headText]
  | cons c cs ih =>
    rw [cutHead]
    split
    · rename_i hb
      obtain rfl := beq_iff_eq.mp hb
      exact (headText_cons_brace keep cs).symm
    · rename_i hb
      split
      · rename_i hs
        obtain ⟨rfl, hs⟩ := Bool.and_eq_true_iff.mp hs
        obtain rfl := beq_iff_eq.mp hs
        exact (headText_cons_semicolon cs).symm
      · rename_i hs
        rw [headText_cons (by simpa using hb) (fun hk => by simpa [hk] using hs), ← ih]
        cases cutHead keep cs <;> rfl

lemma cutHead_append (keep : Bool) (a b : List Char) :
    cutHead keep (a ++ b) = (cutHead keep a).or ((cutHead keep b).map (a ++ ·)) := by
  induction a with
  | nil => simp [cutHead]
  | cons c a ih =>
    rw [List.cons_append, cutHead, cutHead]
    split
    · rfl
    · split
      · rfl
      · rw [ih]
        cases cutHead keep a with
        | some last => rfl
        | none => simp [Function.comp_def]

lemma cutHead_blanks {gap : List Char} (h : ∀ c ∈ gap, isBlank c = true) : cutHead keep gap = none := by
  have hb : isBlank '\x7b' = false := by decide
  have hs : isBlank ';' = false := by decide
  induction gap with
  | nil => rfl
  | cons c gap ih =>
    obtain ⟨hc, hg⟩ := List.forall_mem_cons.mp h
    have hbrace : c ≠ '\x7b' := fun he => by simp [he, hb] at hc
    have hsemi : c ≠ ';' := fun he => by simp [he, hs] at hc
    simp [cutHead, hbrace, hsemi, ih hg]

/-- The space after a full line stands for the line break, and the carriage return before it is blank as well. -/
lemma words_headLines_lines (keep : Bool) (cs : List Char) :
    words (headLines keep (lines cs)) = words (headText keep cs) := by
  rw [← getD_cutHead]
  induction cs using induction_on_lines with
  | tight line hl =>
    rw [lines_tight hl]
    split
    · rename_i hn
      rw [hn]
      rfl
    · rw [headLines]
      cases cutHead keep line with
      | some last => rfl
      | none => exact words_concat_blank (by decide) line
  | newline line rest hl ih =>
    obtain ⟨gap, hg, he⟩ := exists_dropReturn_append line
    have hcut : cutHead keep line = cutHead keep (dropReturn line) := by
      conv_lhs => rw [he]
      rw [cutHead_append, cutHead_blanks hg, Option.map_none, Option.or_none]
    have hbreak : cutHead keep ('\n' :: rest) = (cutHead keep rest).map ('\n' :: ·) := by
      rw [← List.singleton_append, cutHead_append, cutHead_blanks (by simp; decide), Option.none_or]
      rfl
    rw [lines_append_newline hl, headLines, cutHead_append, hcut, hbreak]
    cases cutHead keep (dropReturn line) with
    | some last => rfl
    | none =>
      have hrest : (((cutHead keep rest).map ('\n' :: ·)).map (line ++ ·)).getD (line ++ '\n' :: rest) =
          line ++ '\n' :: (cutHead keep rest).getD rest := by
        cases cutHead keep rest <;> rfl
      rw [Option.none_or, hrest, words_append_blank (by decide), words_append_blank (by decide), ih]
      conv_rhs => rw [he, words_append_blanks hg]

lemma head_eq_collapse (keep : Bool) (cs : List Char) : head keep cs = collapse (headText keep cs) := by
  rw [head, collapse, words_headLines_lines, collapse]

lemma brace_not_mem_headText (keep : Bool) (cs : List Char) : '\x7b' ∉ headText keep cs := by
  induction cs with
  | nil => simp [headText]
  | cons c cs ih =>
    by_cases hb : c = '\x7b'
    · simp [hb, headText_cons_brace]
    · by_cases hs : keep = true ∧ c = ';'
      · simp [hs.1, hs.2, headText_cons_semicolon]
      · rw [headText_cons hb fun hk hc => hs ⟨hk, hc⟩]
        exact List.not_mem_cons_of_ne_of_not_mem (Ne.symm hb) ih

lemma brace_not_mem_head (keep : Bool) (cs : List Char) : '\x7b' ∉ head keep cs := by
  rw [head_eq_collapse]
  exact fun hm => brace_not_mem_headText keep cs (mem_of_mem_collapse (by decide) hm)

lemma headText_eq_self (hb : '\x7b' ∉ cs) (hs : keep = true → ';' ∉ cs) : headText keep cs = cs := by
  rw [headText, takeWhile_ne_eq_self hb, if_neg fun h => hs h.1 h.2]

lemma headText_true_append_semicolon (hs : ';' ∉ a) (hb : '\x7b' ∉ a ++ ';' :: b) :
    headText true (a ++ ';' :: b) = a ++ [';'] := by
  have hm : ';' ∈ a ++ ';' :: b := by simp
  simp only [headText, takeWhile_ne_eq_self hb, hm, takeWhile_ne_append_cons hs, and_self, if_true]

lemma exists_head_eq_append_semicolon (h : ';' ∈ head true cs) :
    ∃ before gap, head true cs = before ++ ';' :: gap ∧ ';' ∉ before ∧ ∀ c ∈ gap, isBlank c = true := by
  have hm : ';' ∈ headText true cs := mem_of_mem_collapse (by decide) (head_eq_collapse true cs ▸ h)
  have hopen : ';' ∈ cs.takeWhile (· != '\x7b') := by
    by_contra hn
    simp only [headText, hn, and_false, if_false] at hm
  set front := cs.takeWhile (· != ';')
  have hfront : ';' ∉ front := fun hm => by simpa using List.mem_takeWhile_imp hm
  have hhead : head true cs = collapse (front ++ [';']) := by
    rw [head_eq_collapse]
    simp only [headText, hopen, and_self, if_true, front]
  obtain ⟨before, gap, hb, hg, he⟩ := exists_collapse_append_mark (x := ';') (by decide) front []
  refine ⟨collapse front ++ before, gap, ?_, ?_, hg⟩
  · rw [hhead, he, List.append_assoc]
    simp [collapse, words_nil]
  · intro hm
    rcases List.mem_append.mp hm with hm | hm
    · exact hfront (mem_of_mem_collapse (by decide) hm)
    · exact absurd (hb ';' hm) (by decide)

lemma collapse_headText_head (keep : Bool) (cs : List Char) :
    collapse (headText keep (head keep cs)) = collapse (head keep cs) := by
  have hbrace := brace_not_mem_head keep cs
  by_cases hs : keep = true ∧ ';' ∈ head keep cs
  · obtain ⟨rfl, hs⟩ := hs
    obtain ⟨before, gap, he, hb, hg⟩ := exists_head_eq_append_semicolon hs
    rw [he] at hbrace ⊢
    have hwords : words (before ++ ';' :: gap) = words (before ++ [';']) := by
      rw [List.append_cons, words_append_blanks hg]
    rw [headText_true_append_semicolon hb hbrace, collapse, collapse, hwords]
  · rw [headText_eq_self hbrace fun hk hm => hs ⟨hk, hm⟩]

/-- A head is the beginning of the whole text on one line: up to the first brace or, for prototypes, up to the first
semicolon, whichever comes first. It has no brace, no line break and no blanks at its ends, and its own head is all of
it. -/
theorem head_is_beginning_of_whole_text (cs : List Char) :
    head false cs = collapse (cs.takeWhile (· != '\x7b')) ∧
      head true cs =
        (if ';' ∈ cs.takeWhile (· != '\x7b') then collapse (cs.takeWhile (· != ';') ++ [';'])
        else collapse (cs.takeWhile (· != '\x7b'))) ∧
      ∀ keep, '\x7b' ∉ head keep cs ∧ '\n' ∉ head keep cs ∧ trim (head keep cs) = head keep cs ∧
        Spaced (head keep cs) ∧ head keep (head keep cs) = head keep cs := by
  have hspaced (keep : Bool) : Spaced (head keep cs) := by
    rw [head_eq_collapse]
    exact spaced_collapse _
  refine ⟨?_, ?_, fun keep => ⟨brace_not_mem_head keep cs, ?_, ?_, hspaced keep, ?_⟩⟩
  · simp [head_eq_collapse, headText]
  · simp only [head_eq_collapse, headText, true_and]
    exact apply_ite collapse _ _ _
  · intro hm
    exact absurd ((hspaced keep).space '\n' hm (by decide)) (by decide)
  · exact trim_eq_self (hspaced keep).first (hspaced keep).last
  · calc head keep (head keep cs)
      _ = collapse (headText keep (head keep cs)) := head_eq_collapse keep _
      _ = collapse (head keep cs) := collapse_headText_head keep cs
      _ = head keep cs := (hspaced keep).collapse_eq

-- A semicolon behind the brace does not count, whichever lines the two are on.
example : head true "int f(int a,\r\n\tint b)\n\x7b return a; \x7d".toList = "int f(int a, int b)".toList := by
  decide +kernel

end SourceAtlas.Text
