import SourceAtlas.Proofs.Signature.Normalize

namespace SourceAtlas.Signature

variable {c x mark : Char} {cs name : List Char} {ws : List (List Char)}

/-- The text without each space that stands right before a sign of a pointer or of a reference. -/
def squash : List Char → List Char
  | [] => []
  | c :: cs => if c = ' ' ∧ cs.head?.any isSign then squash cs else c :: squash cs

lemma closeUp_cons (mark c : Char) (cs : List Char) :
    Text.closeUp mark (c :: cs) =
      if c = ' ' ∧ cs.head? = some mark then Text.closeUp mark cs else c :: Text.closeUp mark cs := by
  cases cs <;> simp [Text.closeUp]

lemma head?_closeUp (hm : x ≠ mark) (hs : x ≠ ' ') (cs : List Char) :
    (Text.closeUp mark cs).head? = some x ↔ cs.head? = some x := by
  induction cs with
  | nil => simp [Text.closeUp]
  | cons c cs ih =>
    rw [closeUp_cons]
    split
    · rename_i h
      rw [ih, h.2, h.1]
      simp [hm.symm, hs.symm]
    · simp

lemma any_isSign (c : Option Char) : c.any isSign = true ↔ c = some '*' ∨ c = some '&' := by
  cases c <;> simp [isSign]

lemma closeUp_closeUp (cs : List Char) : Text.closeUp '&' (Text.closeUp '*' cs) = squash cs := by
  induction cs with
  | nil => rfl
  | cons c cs ih =>
    have hh : (Text.closeUp '*' cs).head? = some '&' ↔ cs.head? = some '&' :=
      head?_closeUp (by decide) (by decide) cs
    simp only [closeUp_cons '*', squash, any_isSign]
    by_cases hs : c = ' ' ∧ cs.head? = some '*'
    · rw [if_pos hs, if_pos ⟨hs.1, Or.inl hs.2⟩, ih]
    · rw [if_neg hs]
      simp only [closeUp_cons '&', hh, ih]
      by_cases hr : c = ' ' ∧ cs.head? = some '&'
      · rw [if_pos hr, if_pos ⟨hr.1, Or.inr hr.2⟩]
      · rw [if_neg hr, if_neg]
        rintro ⟨hc, h | h⟩
        · exact hs ⟨hc, h⟩
        · exact hr ⟨hc, h⟩

lemma squash_append {a b : List Char} (h : a.getLast? = some ' ' → b.head?.any isSign = false) :
    squash (a ++ b) = squash a ++ squash b := by
  induction a with
  | nil => rfl
  | cons c a ih =>
    have hhead : (c = ' ' ∧ (a ++ b).head?.any isSign = true) ↔ (c = ' ' ∧ a.head?.any isSign = true) := by
      refine and_congr_right fun hc => ?_
      cases a with
      | nil => simpa using h (by rw [hc]; rfl)
      | cons d a => rfl
    have hrest : squash (a ++ b) = squash a ++ squash b := by
      refine ih fun hl => h ?_
      rw [List.getLast?_cons, hl]
      rfl
    simp only [List.cons_append, squash, hhead, hrest]
    split <;> rfl

lemma squash_eq_self (h : ' ' ∉ cs) : squash cs = cs := by
  induction cs with
  | nil => rfl
  | cons c cs ih =>
    obtain ⟨hc, hcs⟩ := not_or.mp (List.mem_cons.not.mp h)
    rw [squash, if_neg fun hs => hc hs.1.symm, ih hcs]

lemma isWordChar_of_isIdentifier (h : isIdentifier name = true) : ∀ c ∈ name, Text.isWordChar c = true :=
  List.all_eq_true.mp (Bool.and_eq_true_iff.mp h).2

lemma isBlank_of_isIdentifier (h : isIdentifier name = true) : ∀ c ∈ name, Text.isBlank c = false := fun c hc =>
  Text.isBlank_of_isWordChar (isWordChar_of_isIdentifier h c hc)

lemma ne_nil_of_isIdentifier (h : isIdentifier name = true) : name ≠ [] := by
  rintro rfl
  simp [isIdentifier] at h

lemma not_mem_of_isWordChar (h : ∀ c ∈ name, Text.isWordChar c = true)
    (hc : Text.isWordChar c = false) : c ∉ name := by
  intro hm
  rw [h c hm] at hc
  cases hc

lemma isSign_of_isWordChar (h : Text.isWordChar c = true) : isSign c = false := by
  have hs : Text.isWordChar '*' = false ∧ Text.isWordChar '&' = false := by decide +kernel
  cases hc : isSign c with
  | false => rfl
  | true => rcases Bool.or_eq_true_iff.mp hc with hc | hc <;> simp_all

lemma typeWords_append_name (signs : List Char) (hw : ws ≠ []) (hs : ∀ c ∈ signs, isSign c = true)
    (hi : isIdentifier name = true) (hb : name ∉ builtinTypes) :
    typeWords (ws ++ [signs ++ name]) = ws ++ if signs.isEmpty then [] else [signs] := by
  have hhead : ∀ c ∈ name.head?, isSign c = false := fun c hc =>
    isSign_of_isWordChar (isWordChar_of_isIdentifier hi c (List.mem_of_mem_head? hc))
  have hdrop : (signs ++ name).dropWhile isSign = name := by
    rw [List.dropWhile_append_of_pos hs, Text.dropWhile_eq_self hhead]
  have htake : (signs ++ name).takeWhile isSign = signs := by
    have h := List.takeWhile_append_dropWhile (p := isSign) (l := signs ++ name)
    rw [hdrop] at h
    exact List.append_cancel_right h
  have hlen : 0 < ws.length := List.length_pos_iff.mpr hw
  simp [typeWords, hdrop, htake, hi, hb, hlen]

def EndsInName (ws : List (List Char)) : Prop :=
  ∃ first signs name, ws = first ++ [signs ++ name] ∧ first ≠ [] ∧ (∀ c ∈ signs, isSign c = true) ∧
    isIdentifier name = true ∧ name ∉ builtinTypes

lemma typeWords_eq_self (h : ¬ EndsInName ws) : typeWords ws = ws := by
  rcases List.eq_nil_or_concat ws with rfl | ⟨first, last, rfl⟩
  · rfl
  · rw [List.concat_eq_append] at h ⊢
    by_cases hn : 1 < (first ++ [last]).length ∧ isIdentifier (last.dropWhile isSign) = true ∧
        last.dropWhile isSign ∉ builtinTypes
    · exfalso
      apply h
      refine ⟨first, last.takeWhile isSign, last.dropWhile isSign, ?_, ?_, ?_, hn.2⟩
      · rw [List.takeWhile_append_dropWhile]
      · rintro rfl
        simp at hn
      · exact fun c hc => List.mem_takeWhile_imp hc
    · simp only [typeWords, List.getLast?_concat]
      apply if_neg
      simpa [and_assoc] using hn

lemma parameterType_eq (he : '=' ∉ cs) : parameterType cs = squash ([' '].intercalate (typeWords (Text.words cs))) := by
  rw [parameterType, Text.takeWhile_ne_eq_self he, closeUp_closeUp]

lemma parameterType_append_value (he : '=' ∉ cs) (value : List Char) :
    parameterType (cs ++ '=' :: value) = parameterType cs := by
  rw [parameterType, Text.takeWhile_ne_append_cons he, parameterType, Text.takeWhile_ne_eq_self he]

lemma parameterType_of_named (he : '=' ∉ cs) (hc : Text.words cs = ws ++ [name]) (hw : ws ≠ [])
    (hi : isIdentifier name = true) (hb : name ∉ builtinTypes) :
    parameterType cs = squash ([' '].intercalate ws) := by
  have htype := typeWords_append_name [] hw (by simp) hi hb
  rw [List.nil_append, List.isEmpty_nil, if_pos rfl, List.append_nil] at htype
  rw [parameterType_eq he, hc, htype]

end SourceAtlas.Signature
