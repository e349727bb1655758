import SourceAtlas.Import.Rules
import SourceAtlas.Proofs.Text.Splitting

namespace SourceAtlas.Import

variable {sep : Char} {name long own start : String} {context : Option String}

lemma startsWith_iff : startsWith name start = true ↔ start.toList <+: name.toList :=
  List.isPrefixOf_iff_prefix

def Continues (sep : Char) (name long : String) : Prop := ∃ rest, long.toList = name.toList ++ sep :: rest

lemma continues_slash (name rest : String) : Continues '/' name (name ++ "/" ++ rest) := ⟨rest.toList, by simp⟩

lemma continues_dot (name rest : String) : Continues '.' name (name ++ "." ++ rest) := ⟨rest.toList, by simp⟩

namespace Continues

lemma segments_prefix (h : Continues sep name long) : segments sep name <+: segments sep long := by
  obtain ⟨rest, hl⟩ := h
  rw [segments, segments, hl, List.splitOn_append_cons_self]
  exact List.prefix_append _ _

lemma head?_segments (h : Continues sep name long) : (segments sep long).head? = (segments sep name).head? := by
  obtain ⟨rest, hl⟩ := h
  rw [segments, segments, hl, Text.head?_splitOn_append_cons]

lemma basePackage_eq (h : Continues '.' name long) (hd : '.' ∈ name.toList) : basePackage long = basePackage name := by
  obtain ⟨rest, hl⟩ := h
  rw [basePackage, basePackage, segments, segments, hl, Text.take_two_splitOn_append_cons hd]

lemma ne_of_not_mem {other : String} (h : Continues sep name long) (hs : sep ∉ other.toList) : long ≠ other := by
  rintro rfl
  obtain ⟨rest, hl⟩ := h
  simp [hl] at hs

lemma startsWith_eq (h : Continues sep name long) (hs : sep ∉ start.toList) :
    startsWith long start = startsWith name start := by
  obtain ⟨rest, hl⟩ := h
  rw [Bool.eq_iff_iff, startsWith_iff, startsWith_iff, hl, Text.prefix_append_cons_iff hs]

lemma startsWith_segment_iff {w : String} (h : Continues sep name long) (hs : sep ∉ w.toList)
    (hw : start.toList = w.toList ++ [sep]) :
    startsWith long start = true ↔ w = name ∨ startsWith name start = true := by
  obtain ⟨rest, hl⟩ := h
  rw [startsWith_iff, startsWith_iff, hl, hw, Text.concat_prefix_append_cons_iff hs, String.toList_inj]

lemma startsWith_segment_eq {w : String} (h : Continues sep name long) (hs : sep ∉ w.toList)
    (hw : start.toList = w.toList ++ [sep]) (hn : w ≠ name) : startsWith long start = startsWith name start := by
  rw [Bool.eq_iff_iff, h.startsWith_segment_iff hs hw, or_iff_right hn]

end Continues

lemma isOwn_iff : (name == own || startsWith name (own ++ "/")) = true ↔ segments '/' own <+: segments '/' name := by
  rw [Bool.or_eq_true, beq_iff_eq, startsWith_iff, segments, segments, Text.splitOn_prefix_splitOn_iff,
    String.toList_inj, String.toList_append, eq_comm]
  rfl

lemma goIsExternal_eq_false_iff :
    goIsExternal name context = false ↔
      (∀ first ∈ (segments '/' name).head?, '.' ∉ first) ∨ ∃ own ∈ context, segments '/' own <+: segments '/' name := by
  have hfirst : (segments '/' name).head?.any (·.contains '.') = false ↔
      ∀ first ∈ (segments '/' name).head?, '.' ∉ first := by
    cases (segments '/' name).head? <;> simp
  rw [← hfirst]
  unfold goIsExternal
  cases (segments '/' name).head?.any (·.contains '.') with
  | false => simp
  | true =>
    cases context with
    | none => simp
    | some own =>
      have hown : (∃ m ∈ some own, segments '/' m <+: segments '/' name) ↔ segments '/' own <+: segments '/' name := by
        simp
      rw [hown, ← isOwn_iff]
      dsimp only
      cases name == own || startsWith name (own ++ "/") <;> simp

namespace Continues

lemma goIsExternal_eq_false (h : Continues '/' name long) (hi : goIsExternal name context = false) :
    goIsExternal long context = false := by
  rw [goIsExternal_eq_false_iff] at hi ⊢
  rw [h.head?_segments]
  refine hi.imp_right ?_
  rintro ⟨own, ho, hp⟩
  exact ⟨own, ho, hp.trans h.segments_prefix⟩

lemma pythonIsExternal_eq (h : Continues '.' name long) (hn : name ≠ "") :
    pythonIsExternal long = pythonIsExternal name := by
  have hdot : startsWith long "." = startsWith name "." := h.startsWith_segment_eq (by simp) rfl hn.symm
  rw [pythonIsExternal, pythonIsExternal, hdot, h.head?_segments]

lemma startsWith_of_mem {w : String} (h : Continues sep name long) (hd : sep ∈ name.toList) (hs : sep ∉ w.toList)
    (hw : start.toList = w.toList ++ [sep]) : startsWith long start = startsWith name start := by
  refine h.startsWith_segment_eq hs hw ?_
  rintro rfl
  exact hs hd

lemma javaIsExternal_eq (h : Continues '.' name long) (hd : '.' ∈ name.toList) :
    javaIsExternal long context = javaIsExternal name context := by
  have hjava : startsWith long "java." = startsWith name "java." := h.startsWith_of_mem hd (w := "java") (by decide) rfl
  have hjavax : startsWith long "javax." = startsWith name "javax." :=
    h.startsWith_of_mem hd (w := "javax") (by decide) rfl
  have hshares : sharesBasePackage long context = sharesBasePackage name context := by
    unfold sharesBasePackage
    rw [h.basePackage_eq hd]
  rw [javaIsExternal, javaIsExternal, hjava, hjavax, hshares]

lemma kotlinIsExternal_eq (h : Continues '.' name long) (hd : '.' ∈ name.toList) :
    kotlinIsExternal long context = kotlinIsExternal name context := by
  have hkotlin : startsWith long "kotlin." = startsWith name "kotlin." :=
    h.startsWith_of_mem hd (w := "kotlin") (by decide) rfl
  have hkotlinx : startsWith long "kotlinx." = startsWith name "kotlinx." :=
    h.startsWith_of_mem hd (w := "kotlinx") (by decide) rfl
  rw [kotlinIsExternal, kotlinIsExternal, hkotlin, hkotlinx, h.javaIsExternal_eq hd]

lemma swiftIsExternal_eq (h : Continues '.' name long) : swiftIsExternal long = swiftIsExternal name := by
  have hdots : ∀ framework ∈ swiftFrameworks, '.' ∉ framework.toList := by decide
  rw [swiftIsExternal, swiftIsExternal, Bool.eq_iff_iff, List.any_eq_true, List.any_eq_true]
  refine exists_congr fun framework => and_congr_right fun hf => ?_
  rw [Bool.or_eq_true, Bool.or_eq_true, beq_iff_eq, beq_iff_eq,
    h.startsWith_segment_iff (hdots framework hf) String.toList_append,
    or_iff_right (h.ne_of_not_mem (hdots framework hf)), eq_comm]

lemma javaScriptIsExternal_eq (h : Continues '/' name long) (hn : name ∉ ["", "@", "~"]) :
    javaScriptIsExternal long = javaScriptIsExternal name := by
  simp only [List.mem_cons, List.not_mem_nil, or_false, not_or] at hn
  obtain ⟨hempty, hat, htilde⟩ := hn
  have hdot : startsWith long "." = startsWith name "." := h.startsWith_eq (by decide)
  have hnode : startsWith long "node:" = startsWith name "node:" := h.startsWith_eq (by decide)
  have hroot : startsWith long "/" = startsWith name "/" := h.startsWith_segment_eq (by simp) rfl (Ne.symm hempty)
  have hsource : startsWith long "@/" = startsWith name "@/" := h.startsWith_segment_eq (by decide) rfl (Ne.symm hat)
  have hhome : startsWith long "~/" = startsWith name "~/" := h.startsWith_segment_eq (by decide) rfl (Ne.symm htilde)
  have hown : ownStarts.any (startsWith long) = ownStarts.any (startsWith name) := by
    simp only [ownStarts, List.any_cons, hdot, hroot, hsource, hhome, hnode]
    rfl
  rw [javaScriptIsExternal, javaScriptIsExternal, hown, h.head?_segments]

end Continues

lemma kotlinIsExternal_eq_false (h : javaIsExternal name context = false) : kotlinIsExternal name context = false := by
  rw [kotlinIsExternal, h, ite_self]

/-- An import of Go stays inside exactly if its first segment has no dot or it begins with all segments of the module.
What lies in a module is classified as the module is. For this a name needs two segments in Java and Kotlin, whose rules
look at two, and in JavaScript it must not be one that a slash turns into a path inside the project. -/
theorem import_rules_respect_segments (name rest : String) (context : Option String) :
    (∀ own, goIsExternal name (some own) = false ↔
        (∀ first ∈ (segments '/' name).head?, '.' ∉ first) ∨ segments '/' own <+: segments '/' name) ∧
      (goIsExternal name context = false → goIsExternal (name ++ "/" ++ rest) context = false) ∧
      (name ≠ "" → pythonIsExternal (name ++ "." ++ rest) = pythonIsExternal name) ∧
      ('.' ∈ name.toList →
        javaIsExternal (name ++ "." ++ rest) context = javaIsExternal name context ∧
          kotlinIsExternal (name ++ "." ++ rest) context = kotlinIsExternal name context) ∧
      (javaIsExternal name context = false → kotlinIsExternal name context = false) ∧
      swiftIsExternal (name ++ "." ++ rest) = swiftIsExternal name ∧
      (name ∉ ["", "@", "~"] → javaScriptIsExternal (name ++ "/" ++ rest) = javaScriptIsExternal name) := by
  have hslash := continues_slash name rest
  have hdot := continues_dot name rest
  refine ⟨fun own => ?_, hslash.goIsExternal_eq_false, hdot.pythonIsExternal_eq, fun hd => ?_,
    kotlinIsExternal_eq_false, hdot.swiftIsExternal_eq, hslash.javaScriptIsExternal_eq⟩
  · rw [goIsExternal_eq_false_iff]
    simp
  · exact ⟨hdot.javaIsExternal_eq hd, hdot.kotlinIsExternal_eq hd⟩

theorem names_below_acme_are_classified_as_acme :
    goIsExternal "com.acme/util" (some "com.acme") = false ∧ goIsExternal "com.acme2" (some "com.acme") = true ∧
      pythonIsExternal "com.acme.util" = pythonIsExternal "com.acme" ∧
      javaIsExternal "com.acme.util" (some "com.acme") = false ∧
      kotlinIsExternal "com.acme.util" (some "com.acme") = false ∧
      swiftIsExternal "com.acme.util" = swiftIsExternal "com.acme" ∧
      javaScriptIsExternal "com.acme/util" = javaScriptIsExternal "com.acme" := by
  have hjava : javaIsExternal "com.acme" (some "com.acme") = false := by decide
  obtain ⟨hown, hgo, hpython, hjvm, hkotlin, hswift, hjs⟩ :=
    import_rules_respect_segments "com.acme" "util" (some "com.acme")
  obtain ⟨hjavaBelow, hkotlinBelow⟩ := hjvm (by decide)
  exact ⟨hgo ((hown "com.acme").mpr (.inr (List.prefix_refl _))), by decide, hpython (by decide),
    hjavaBelow.trans hjava, hkotlinBelow.trans (hkotlin hjava), hswift, hjs (by decide)⟩

end SourceAtlas.Import
