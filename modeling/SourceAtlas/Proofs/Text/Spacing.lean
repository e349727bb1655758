import Mathlib.Data.List.Chain
import SourceAtlas.Proofs.Text.Words

/-! Texts whose words have one space between them are exactly those that collapsing the blanks leaves as they are. -/

namespace SourceAtlas.Text

variable {cs w : List Char} {ws : List (List Char)}

/-- No blanks at the ends, none but spaces inside, and no two of them side by side. -/
structure Spaced (cs : List Char) : Prop where
  first : ∀ c ∈ cs.head?, isBlank c = false
  last : ∀ c ∈ cs.getLast?, isBlank c = false
  space : ∀ c ∈ cs, isBlank c = true → c = ' '
  apart : cs.IsChain fun c d => ¬ (c = ' ' ∧ d = ' ')

lemma apart_of_tight (h : ∀ c ∈ w, isBlank c = false) : w.IsChain fun c d => ¬ (c = ' ' ∧ d = ' ') := by
  apply List.Pairwise.isChain
  apply List.pairwise_of_forall_mem_list
  rintro c hc d - ⟨rfl, -⟩
  exact absurd (h ' ' hc) (by decide)

lemma spaced_of_tight (h : ∀ c ∈ w, isBlank c = false) : Spaced w where
  first c hc := h c (List.mem_of_mem_head? hc)
  last c hc := h c (List.mem_of_mem_getLast? hc)
  space c hc hb := by
    rw [h c hc] at hb
    cases hb
  apart := apart_of_tight h

lemma spaced_append_space (hn : w ≠ []) (h : ∀ c ∈ w, isBlank c = false) (rest : List Char) :
    Spaced (w ++ ' ' :: rest) ↔ rest ≠ [] ∧ Spaced rest := by
  have hlast (hr : rest ≠ []) : (w ++ ' ' :: rest).getLast? = rest.getLast? := by
    obtain ⟨c, cs, rfl⟩ := List.exists_cons_of_ne_nil hr
    rw [List.getLast?_append, List.getLast?_cons_cons, List.getLast?_cons, Option.some_or]
  constructor
  · intro hs
    have hr : rest ≠ [] := by
      rintro rfl
      exact absurd (hs.last ' ' (by simp)) (by decide)
    have hchain := List.isChain_cons.mp (List.isChain_append.mp hs.apart).2.1
    have hinner : ∀ c ∈ rest, isBlank c = true → c = ' ' := fun c hc => hs.space c (by simp [hc])
    refine ⟨hr, fun c hc => ?_, fun c hc => hs.last c (hlast hr ▸ hc), hinner, hchain.2⟩
    refine Bool.eq_false_iff.mpr fun hb => hchain.1 c hc ⟨rfl, ?_⟩
    exact hinner c (List.mem_of_mem_head? hc) hb
  · rintro ⟨hr, hs⟩
    have htight := spaced_of_tight h
    refine ⟨fun c hc => ?_, fun c hc => hs.last c (hlast hr ▸ hc), ?_, ?_⟩
    · rw [List.head?_append_of_ne_nil _ hn] at hc
      exact htight.first c hc
    · exact List.forall_mem_append.mpr ⟨htight.space, List.forall_mem_cons.mpr ⟨fun _ => rfl, hs.space⟩⟩
    · refine List.isChain_append.mpr ⟨htight.apart, List.isChain_cons.mpr ⟨?_, hs.apart⟩, ?_⟩
      · rintro c hc ⟨-, rfl⟩
        exact absurd (hs.first ' ' hc) (by decide)
      · rintro c hc d - ⟨rfl, -⟩
        exact absurd (htight.last ' ' hc) (by decide)

lemma intercalate_ne_nil {sep : List Char} (hw : w ≠ []) (ws : List (List Char)) : sep.intercalate (w :: ws) ≠ [] := by
  obtain ⟨c, w, rfl⟩ := List.exists_cons_of_ne_nil hw
  have h : sep.intercalate ((c :: w) :: ws) = c :: sep.intercalate (w :: ws) := intercalate_cons_append sep [c] w ws
  simp [h]

lemma spaced_intercalate (h : ∀ w ∈ ws, w ≠ [] ∧ ∀ c ∈ w, isBlank c = false) : Spaced ([' '].intercalate ws) := by
  induction ws with
  | nil => exact spaced_of_tight (by simp)
  | cons w ws ih =>
    obtain ⟨⟨hn, hw⟩, hws⟩ := List.forall_mem_cons.mp h
    cases ws with
    | nil =>
      rw [List.intercalate_singleton]
      exact spaced_of_tight hw
    | cons next ws =>
      rw [List.intercalate_cons_cons, List.append_assoc, List.singleton_append, spaced_append_space hn hw]
      exact ⟨intercalate_ne_nil (hws next List.mem_cons_self).1 ws, ih hws⟩

lemma spaced_collapse (cs : List Char) : Spaced (collapse cs) := spaced_intercalate fun _ => of_mem_words

lemma Spaced.collapse_eq (h : Spaced cs) : collapse cs = cs := by
  induction cs using induction_on_words with
  | tight w hw => exact collapse_eq_self hw
  | blank w c rest hw hc ih =>
    obtain rfl : c = ' ' := h.space c (by simp) hc
    have hn : w ≠ [] := by
      rintro rfl
      exact absurd (h.first ' ' rfl) (by decide)
    obtain ⟨hr, hs⟩ := (spaced_append_space hn hw rest).mp h
    have hrest : [' '].intercalate (words rest) = rest := ih hs
    have hwords : words rest ≠ [] := by
      intro he
      rw [he] at hrest
      exact hr hrest.symm
    rw [collapse, words_append_blank hc, words_eq_singleton hn hw, intercalate_append _ _ hwords, hrest]
    simp

lemma trim_collapse (cs : List Char) : trim (collapse cs) = collapse cs :=
  trim_eq_self (spaced_collapse cs).first (spaced_collapse cs).last

end SourceAtlas.Text
