import Mathlib.Data.List.Basic
import SourceAtlas.Extract.Java
import SourceAtlas.Extract.Kotlin
import SourceAtlas.Proofs.Text.Keywords
import SourceAtlas.Proofs.Text.Occurrences

namespace SourceAtlas

open Text

namespace Text

variable {w : List Char}

def bare (cs : List Char) : List Char := (dropEnd (· == ';') cs).filter (!isBlank ·)

def isPathChar (c : Char) : Bool := !isBlank c && c != ';'

lemma filter_isPathChar_bare (cs : List Char) : (bare cs).filter isPathChar = cs.filter isPathChar := by
  have hmark : ∀ c, (c == ';') = true → isPathChar c = false := by
    intro c hc
    simp [isPathChar, beq_iff_eq.mp hc]
  rw [bare, List.filter_filter, ← filter_dropEnd hmark cs]
  congr 1
  funext c
  cases hb : isBlank c <;> simp [isPathChar, hb]

lemma filter_isPathChar_trim (cs : List Char) : (trim cs).filter isPathChar = cs.filter isPathChar := by
  have hblank : ∀ c, isBlank c = true → isPathChar c = false := fun c hc => by simp [isPathChar, hc]
  rw [trim, dropBoth, filter_dropEnd hblank, filter_dropWhile hblank]

lemma ne_semicolon_of_isBlank {c : Char} (h : isBlank c = true) : c ≠ ';' := by
  rintro rfl
  exact absurd h (by decide)

lemma bare_eq {before after marks : List Char} (hb : ∀ c ∈ before, isBlank c = true)
    (hw : ∀ c ∈ w, isBlank c = false ∧ c ≠ ';') (ha : ∀ c ∈ after, isBlank c = true) (hm : ∀ c ∈ marks, c = ';') :
    bare (before ++ (w ++ (after ++ marks))) = w := by
  have hmarks : ∀ c ∈ marks, (c == ';') = true := fun c hc => beq_iff_eq.mpr (hm c hc)
  have hrest : ∀ c ∈ before ++ (w ++ after), (c == ';') = false := by
    simp only [List.forall_mem_append, beq_eq_false_iff_ne]
    exact ⟨fun c hc => ne_semicolon_of_isBlank (hb c hc), fun c hc => (hw c hc).2,
      fun c hc => ne_semicolon_of_isBlank (ha c hc)⟩
  have hdrop : dropEnd (· == ';') (before ++ (w ++ (after ++ marks))) = before ++ (w ++ after) := by
    rw [← dropEnd_of_forall hrest, ← dropEnd_append hmarks (before ++ (w ++ after))]
    simp
  have hbefore : before.filter (!isBlank ·) = [] := List.filter_eq_nil_iff.mpr fun c hc => by simp [hb c hc]
  have hafter : after.filter (!isBlank ·) = [] := List.filter_eq_nil_iff.mpr fun c hc => by simp [ha c hc]
  have hword : w.filter (!isBlank ·) = w := List.filter_eq_self.mpr fun c hc => by simp [(hw c hc).1]
  rw [bare, hdrop, List.filter_append, List.filter_append, hbefore, hword, hafter, List.append_nil, List.nil_append]

end Text

structure IsImportPath (p : List Char) : Prop where
  ne_nil : p ≠ []
  chars : ∀ c ∈ p, isBlank c = false ∧ c ≠ ';'
  not_static : ¬ "static".toList <+: p

namespace IsImportPath

variable {p : List Char}

lemma tight (hp : IsImportPath p) : ∀ c ∈ p, isBlank c = false := fun c hc => (hp.chars c hc).1

lemma filter_isPathChar (hp : IsImportPath p) : p.filter isPathChar = p :=
  List.filter_eq_self.mpr fun c hc => by simp [isPathChar, hp.chars c hc]

end IsImportPath

namespace Java

variable {p w w₀ w₁ w₂ : List Char}

lemma importPath_import (hg : ∀ c ∈ w₁, isBlank c = true) (hn : w ≠ []) (hw : ∀ c ∈ w, isBlank c = false)
    (more : List Char) :
    importPath ("import".toList ++ (w₁ ++ (w ++ (more ++ [';'])))) =
      bare ((after? "static ".toList (w ++ (more ++ [';']))).getD (w ++ (more ++ [';']))) := by
  have hend : dropEnd isBlank (w₁ ++ (w ++ (more ++ [';']))) = w₁ ++ (w ++ (more ++ [';'])) := by
    simpa only [List.append_assoc] using dropEnd_eq_self (w := [';']) (by simp) (by simp; decide) (w₁ ++ (w ++ more))
  have hhead : ∀ c ∈ (w ++ (more ++ [';'])).head?, isBlank c = false := by
    rw [List.head?_append_of_ne_nil _ hn]
    exact fun c hc => hw c (List.mem_of_mem_head? hc)
  rw [importPath, trim_append_tight (by simp) (isBlank_of_any rfl), hend]
  rw [after?_append, Option.getD_some, List.dropWhile_append_of_pos hg, dropWhile_eq_self hhead, flatten_words, bare]

lemma importPath_plain (hp : IsImportPath p) (h₁ : ∀ c ∈ w₁, isBlank c = true) (h₀ : ∀ c ∈ w₀, isBlank c = true) :
    importPath ("import".toList ++ (w₁ ++ (p ++ (w₀ ++ [';'])))) = p := by
  have hstatic : ¬ "static ".toList <+: p ++ (w₀ ++ [';']) := by
    intro h
    have hpre : "static".toList <+: p ++ (w₀ ++ [';']) := (List.prefix_append _ [' ']).trans h
    apply hp.not_static
    cases w₀ with
    | nil => exact prefix_of_prefix_append_cons (by decide) hpre
    | cons c w₀ =>
      refine prefix_of_prefix_append_cons (x := c) (fun hc => ?_) hpre
      have htight : ∀ c ∈ "static".toList, isBlank c = false := isBlank_of_any rfl
      exact absurd (h₀ c List.mem_cons_self) (by simp [htight c hc])
  rw [importPath_import h₁ hp.ne_nil hp.tight, after?_eq_none_iff.mpr hstatic, Option.getD_none]
  exact bare_eq (List.forall_mem_nil _) hp.chars h₀ (by simp)

lemma importPath_static (hp : IsImportPath p) (h₁ : ∀ c ∈ w₁, isBlank c = true) (h₂ : ∀ c ∈ w₂, isBlank c = true)
    (hn : w₂ ≠ []) (h₀ : ∀ c ∈ w₀, isBlank c = true) :
    importPath ("import".toList ++ (w₁ ++ ("static".toList ++ (w₂ ++ (p ++ (w₀ ++ [';'])))))) = p ↔
      w₂.head? = some ' ' := by
  have himport := importPath_import h₁ (w := "static".toList) (by simp) (isBlank_of_any rfl) (w₂ ++ (p ++ w₀))
  simp only [List.append_assoc] at himport
  obtain ⟨c, w₂, rfl⟩ := List.exists_cons_of_ne_nil hn
  rw [himport, List.head?_cons, Option.some_inj]
  constructor
  · intro he
    by_contra hc
    have hnone : after? "static ".toList ("static".toList ++ (c :: w₂ ++ (p ++ (w₀ ++ [';'])))) = none := by
      apply after?_eq_none_iff.mpr
      intro h
      have hcs := (List.prefix_append_right_inj "static".toList).mp (show "static".toList ++ [' '] <+: _ from h)
      exact hc (List.cons_prefix_cons.mp hcs).1.symm
    rw [hnone, Option.getD_none] at he
    -- Nothing but blanks and the semicolon is dropped, so that the keyword stays.
    have hlength := congrArg (fun cs => (cs.filter isPathChar).length) he
    simp only [filter_isPathChar_bare, List.filter_append, List.length_append, hp.filter_isPathChar] at hlength
    have hstatic : ("static".toList.filter isPathChar).length = 6 := by decide
    omega
  · rintro rfl
    have hsome : after? "static ".toList ("static".toList ++ (' ' :: w₂ ++ (p ++ (w₀ ++ [';'])))) =
        some (w₂ ++ (p ++ (w₀ ++ [';']))) := after?_append "static ".toList _
    rw [hsome, Option.getD_some]
    exact bare_eq (List.forall_mem_cons.mp h₂).2 hp.chars h₀ (by simp)

end Java

namespace Kotlin

variable {p w w₀ w₁ w₂ w₃ marks name : List Char}

lemma importPath_import (cs : List Char) :
    importPath ("import".toList ++ cs) = bare (trim (beforeFirst (spaced "as".toList) (dropEnd isBlank cs))) := by
  rw [importPath, trim_append_tight (by simp) (isBlank_of_any rfl), after?_append, Option.getD_some,
    flatten_words, bare]
  rfl

lemma beforeFirst_as (hg : ∀ c ∈ w₁, isBlank c = true) (hw : ∀ c ∈ w, isBlank c = false) (rest : List Char)
    (hr : ∀ c ∈ rest.head?, isBlank c = true) :
    beforeFirst (spaced "as".toList) (w₁ ++ (w ++ rest)) =
      if w₁.getLast? = some ' ' ∧ w = "as".toList ∧ rest.head? = some ' ' then w₁.dropLast
      else w₁ ++ (w ++ beforeFirst (spaced "as".toList) rest) :=
  beforeFirst_spaced (by simp) (isBlank_of_any rfl) hg hw hr

lemma beforeFirst_as_last (hg : ∀ c ∈ w₁, isBlank c = true) (hw : ∀ c ∈ w, isBlank c = false) :
    beforeFirst (spaced "as".toList) (w₁ ++ w) = w₁ ++ w := by
  have h := beforeFirst_as hg hw [] (by simp)
  simpa [beforeFirst] using h

lemma bare_trim (hp : IsImportPath p) (h₁ : ∀ c ∈ w₁, isBlank c = true) (h₀ : ∀ c ∈ w₀, isBlank c = true)
    (hm : ∀ c ∈ marks, c = ';') : bare (trim (w₁ ++ (p ++ (w₀ ++ marks)))) = p := by
  rw [trim_blank_append h₁, trim_append_tight hp.ne_nil hp.tight]
  by_cases hn : marks = []
  · have hnil : dropEnd isBlank (w₀ ++ marks) = [] := by
      subst hn
      exact dropEnd_append (by simpa using h₀) []
    rw [hnil]
    have hread := bare_eq (List.forall_mem_nil _) hp.chars (List.forall_mem_nil _) (List.forall_mem_nil _)
    simpa using hread
  · have hmarks : ∀ c ∈ marks, isBlank c = false := by
      intro c hc
      rw [hm c hc]
      decide
    rw [dropEnd_eq_self hn hmarks]
    exact bare_eq (List.forall_mem_nil _) hp.chars h₀ hm

lemma importPath_plain (hp : IsImportPath p) (h₁ : ∀ c ∈ w₁, isBlank c = true) (h₀ : ∀ c ∈ w₀, isBlank c = true) :
    importPath ("import".toList ++ (w₁ ++ (p ++ w₀))) = p := by
  have hend : dropEnd isBlank w₀ = [] := dropEnd_append h₀ []
  rw [importPath_import, dropEnd_append_tight hp.ne_nil hp.tight, hend, List.append_nil,
    beforeFirst_as_last h₁ hp.tight]
  simpa using bare_trim hp h₁ (List.forall_mem_nil _) (List.forall_mem_nil _)

/-- Where the word `as` stands as a path, it is taken for the one before another name. -/
lemma bare_trim_ne (hp : IsImportPath p) (h₁ : ∀ c ∈ w₁, isBlank c = true) : bare (trim w₁.dropLast) ≠ p := by
  have hnil : trim w₁.dropLast = [] := by
    have h := trim_blank_append (fun c hc => h₁ c (List.dropLast_subset w₁ hc)) []
    rwa [List.append_nil] at h
  rw [hnil]
  exact hp.ne_nil.symm

lemma importPath_semicolon (hp : IsImportPath p) (h₁ : ∀ c ∈ w₁, isBlank c = true) (h₀ : ∀ c ∈ w₀, isBlank c = true) :
    importPath ("import".toList ++ (w₁ ++ (p ++ (w₀ ++ [';'])))) = p ↔
      ¬ (w₁.getLast? = some ' ' ∧ p = "as".toList ∧ w₀.head? = some ' ') := by
  have hmark : ∀ c ∈ [';'], isBlank c = false := List.forall_mem_singleton.mpr (by decide)
  have hend : dropEnd isBlank (w₁ ++ (p ++ (w₀ ++ [';']))) = w₁ ++ (p ++ (w₀ ++ [';'])) := by
    simpa only [List.append_assoc] using dropEnd_eq_self (by simp) hmark (w₁ ++ (p ++ w₀))
  have hread : bare (trim (w₁ ++ (p ++ (w₀ ++ [';'])))) = p := bare_trim hp h₁ h₀ (by simp)
  rw [importPath_import, hend]
  cases w₀ with
  | nil =>
    have hword : ∀ c ∈ p ++ [';'], isBlank c = false := List.forall_mem_append.mpr ⟨hp.tight, hmark⟩
    rw [List.nil_append, beforeFirst_as_last h₁ hword]
    simpa using hread
  | cons c w₀ =>
    rw [beforeFirst_as h₁ hp.tight _ (by simpa using h₀ c List.mem_cons_self), beforeFirst_as_last h₀ hmark]
    split
    · rename_i hcut
      exact iff_of_false (bare_trim_ne hp h₁) (not_not_intro hcut)
    · rename_i hkeep
      exact iff_of_true hread hkeep

lemma importPath_as (hp : IsImportPath p) (h₁ : ∀ c ∈ w₁, isBlank c = true) (h₂ : ∀ c ∈ w₂, isBlank c = true)
    (hn : w₂ ≠ []) (h₃ : ∀ c ∈ w₃, isBlank c = true) (hn' : w₃ ≠ []) (hname : ∃ c ∈ name.getLast?, isBlank c = false) :
    importPath ("import".toList ++ (w₁ ++ (p ++ (w₂ ++ ("as".toList ++ (w₃ ++ name)))))) = p ↔
      (w₂.getLast? = some ' ' ∧ w₃.head? = some ' ') ∧
        ¬ (w₁.getLast? = some ' ' ∧ p = "as".toList ∧ w₂.head? = some ' ') := by
  obtain ⟨last, hlast, hblank⟩ := hname
  obtain ⟨front, rfl⟩ := List.getLast?_eq_some_iff.mp hlast
  obtain ⟨c, w₂, rfl⟩ := List.exists_cons_of_ne_nil hn
  obtain ⟨d, w₃, rfl⟩ := List.exists_cons_of_ne_nil hn'
  have hend := dropEnd_eq_self (w := [last]) (by simp) (List.forall_mem_singleton.mpr hblank)
    (w₁ ++ (p ++ (c :: w₂ ++ ("as".toList ++ (d :: w₃ ++ front)))))
  simp only [List.append_assoc] at hend
  rw [importPath_import, hend, beforeFirst_as h₁ hp.tight _ (by simpa using h₂ c List.mem_cons_self),
    beforeFirst_as h₂ (isBlank_of_any rfl) _ (by simpa using h₃ d List.mem_cons_self)]
  split
  · rename_i hcut
    exact iff_of_false (bare_trim_ne hp h₁) fun h => h.2 hcut
  · rename_i hkeep
    split
    · rename_i hcut
      refine iff_of_true ?_ ⟨⟨hcut.1, hcut.2.2⟩, hkeep⟩
      have hgap : ∀ x ∈ (c :: w₂).dropLast, isBlank x = true := fun x hx => h₂ x (List.dropLast_subset _ hx)
      simpa using bare_trim hp h₁ hgap (List.forall_mem_nil _)
    · rename_i hmiss
      refine iff_of_false (fun he => ?_) fun h => hmiss ⟨h.1.1, rfl, h.1.2⟩
      -- Only blanks and semicolons are dropped, so that the word `as` stays behind the path.
      have hlength := congrArg (fun cs => (cs.filter isPathChar).length) he
      simp only [filter_isPathChar_bare, filter_isPathChar_trim, List.filter_append, List.length_append,
        hp.filter_isPathChar] at hlength
      have has : ("as".toList.filter isPathChar).length = 2 := by decide
      omega

end Kotlin

/-- The path of an import is read whatever blanks stand around it. A keyword `static` is told from the path only by a
space behind it, and a name behind `as` only by a space on each side of `as`. The word `as` is no path of Kotlin:
between two spaces it is taken for that keyword. -/
theorem import_paths_are_read_if_keywords_have_spaces (p w₀ w₁ w₂ w₃ name : List Char) (hp : IsImportPath p)
    (h₀ : ∀ c ∈ w₀, isBlank c = true) (h₁ : ∀ c ∈ w₁, isBlank c = true) (h₂ : ∀ c ∈ w₂, isBlank c = true)
    (h₃ : ∀ c ∈ w₃, isBlank c = true) (hn₂ : w₂ ≠ []) (hn₃ : w₃ ≠ []) (hname : ∃ c ∈ name.getLast?, isBlank c = false) :
    Java.importPath ("import".toList ++ (w₁ ++ (p ++ (w₀ ++ [';'])))) = p ∧
      (Java.importPath ("import".toList ++ (w₁ ++ ("static".toList ++ (w₂ ++ (p ++ (w₀ ++ [';'])))))) = p ↔
        w₂.head? = some ' ') ∧
      Kotlin.importPath ("import".toList ++ (w₁ ++ (p ++ w₀))) = p ∧
      (Kotlin.importPath ("import".toList ++ (w₁ ++ (p ++ (w₀ ++ [';'])))) = p ↔
        ¬ (w₁.getLast? = some ' ' ∧ p = "as".toList ∧ w₀.head? = some ' ')) ∧
      (Kotlin.importPath ("import".toList ++ (w₁ ++ (p ++ (w₂ ++ ("as".toList ++ (w₃ ++ name)))))) = p ↔
        (w₂.getLast? = some ' ' ∧ w₃.head? = some ' ') ∧
          ¬ (w₁.getLast? = some ' ' ∧ p = "as".toList ∧ w₂.head? = some ' ')) :=
  ⟨Java.importPath_plain hp h₁ h₀, Java.importPath_static hp h₁ h₂ hn₂ h₀, Kotlin.importPath_plain hp h₁ h₀,
    Kotlin.importPath_semicolon hp h₁ h₀, Kotlin.importPath_as hp h₁ h₂ hn₂ h₃ hn₃ hname⟩

theorem tool_is_imported_across_lines :
    let tool := "org.acme.Tool".toList
    Java.importPath "import\n\torg.acme.Tool \n;".toList = tool ∧
      Java.importPath "import\n\tstatic \t org.acme.Tool \n;".toList = tool ∧
      Kotlin.importPath "import\n\torg.acme.Tool \n".toList = tool ∧
      Kotlin.importPath "import\n\torg.acme.Tool \n;".toList = tool ∧
      Kotlin.importPath "import\n\torg.acme.Tool \t as \nTools".toList = tool := by
  intro tool
  have hchars : ∀ c ∈ tool, c ≠ ';' := fun c hc h => absurd (h ▸ hc) (by decide)
  have hp : IsImportPath tool := ⟨by decide, fun c hc => ⟨isBlank_of_any rfl c hc, hchars c hc⟩, by decide⟩
  obtain ⟨hplain, hstatic, hline, hsemicolon, has⟩ := import_paths_are_read_if_keywords_have_spaces
    tool [' ', '\n'] ['\n', '\t'] [' ', '\t', ' '] [' ', '\n'] "Tools".toList hp
    (by simp; decide) (by simp; decide) (by simp; decide) (by simp; decide) (by simp) (by simp) ⟨'s', rfl, by decide⟩
  exact ⟨hplain, hstatic.mpr rfl, hline, hsemicolon.mpr (by decide), has.mpr ⟨⟨rfl, rfl⟩, by decide⟩⟩

theorem keywords_before_tabs_are_read_as_parts_of_paths :
    Java.importPath "import static\ta.b.C;".toList = "statica.b.C".toList ∧
      Java.importPath "import static\ta.b.C;".toList ≠ "a.b.C".toList ∧
      Kotlin.importPath "import com.o.Y\tas\tZ".toList = "com.o.YasZ".toList ∧
      Kotlin.importPath "import com.o.Y\tas\tZ".toList ≠ "com.o.Y".toList := by
  decide +kernel

end SourceAtlas
