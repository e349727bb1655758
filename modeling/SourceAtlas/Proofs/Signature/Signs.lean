import SourceAtlas.Proofs.Signature.Types

namespace SourceAtlas.Signature

structure SignedParameter where
  type : List Char
  signs : List Char
  name : List Char
  type_words : Text.words type ≠ []
  no_value : '=' ∉ type
  signs_ne_nil : signs ≠ []
  signs_only : ∀ c ∈ signs, isSign c = true
  identifier : isIdentifier name = true
  not_builtin : name ∉ builtinTypes

def writeValue : Option (List Char) → List Char
  | none => []
  | some value => '=' :: value

lemma isBlank_of_isSign {c : Char} (h : isSign c = true) : Text.isBlank c = false := by
  rcases Bool.or_eq_true_iff.mp h with h | h <;> rw [beq_iff_eq.mp h] <;> decide

namespace SignedParameter

variable (p : SignedParameter)

def spellings : List (List Char) :=
  [p.type ++ p.signs,
    p.type ++ ' ' :: p.signs,
    p.type ++ p.signs ++ ' ' :: p.name,
    p.type ++ ' ' :: (p.signs ++ p.name),
    p.type ++ ' ' :: (p.signs ++ ' ' :: p.name)]

lemma no_value_of_mem_spellings {spelling : List Char} (h : spelling ∈ p.spellings) : '=' ∉ spelling := by
  have hsigns : '=' ∉ p.signs := fun hm => absurd (p.signs_only _ hm) (by decide)
  have hname : '=' ∉ p.name := not_mem_of_isWordChar (isWordChar_of_isIdentifier p.identifier) (by decide)
  simp only [spellings, List.mem_cons, List.not_mem_nil, or_false] at h
  rcases h with rfl | rfl | rfl | rfl | rfl <;> simp [p.no_value, hsigns, hname]

lemma signs_tight : ∀ c ∈ p.signs, Text.isBlank c = false := fun c hc => isBlank_of_isSign (p.signs_only c hc)

lemma squash_signs : squash p.signs = p.signs :=
  squash_eq_self fun hm => absurd (p.signs_only ' ' hm) (by decide)

lemma squash_append_space (cs : List Char) : squash (cs ++ ' ' :: p.signs) = squash cs ++ p.signs := by
  have hspace : squash (' ' :: p.signs) = squash p.signs := by
    obtain ⟨c, rest, he⟩ := List.exists_cons_of_ne_nil p.signs_ne_nil
    have hc : isSign c = true := p.signs_only c (he ▸ List.mem_cons_self)
    rw [he]
    exact if_pos ⟨rfl, hc⟩
  rw [squash_append fun _ => rfl, hspace, p.squash_signs]

lemma squash_collapse : squash (Text.collapse (p.type ++ p.signs)) = squash (Text.collapse p.type) ++ p.signs := by
  rcases Text.words_append_tight p.signs_ne_nil p.signs_tight p.type with h | ⟨first, last, ht, h⟩
  · rw [Text.collapse, h, Text.intercalate_concat [' '] p.type_words]
    exact p.squash_append_space (Text.collapse p.type)
  · have hc : Text.collapse (p.type ++ p.signs) = Text.collapse p.type ++ p.signs := by
      rw [Text.collapse, h, Text.collapse, ht, Text.intercalate_append _ _ (by simp),
        Text.intercalate_append _ _ (by simp)]
      simp
    rw [hc, squash_append, p.squash_signs]
    intro hl
    exact absurd ((Text.spaced_collapse p.type).last ' ' hl) (by decide)

lemma not_endsInName (ws : List (List Char)) (last : List Char) : ¬ EndsInName (ws ++ [last ++ p.signs]) := by
  rintro ⟨first, front, name, he, -, -, hi, -⟩
  have hlast : last ++ p.signs = front ++ name := by
    simpa using congrArg List.getLast? he
  -- The last character would be a sign and at once part of a name.
  have hend := congrArg List.getLast? hlast
  rw [List.getLast?_append_of_ne_nil _ p.signs_ne_nil, List.getLast?_append_of_ne_nil _ (ne_nil_of_isIdentifier hi),
    List.getLast?_eq_some_getLast p.signs_ne_nil] at hend
  have hsign := p.signs_only _ (List.getLast_mem p.signs_ne_nil)
  rw [isSign_of_isWordChar (isWordChar_of_isIdentifier hi _ (List.mem_of_getLast? hend.symm))] at hsign
  cases hsign

lemma typeWords_eq : typeWords (Text.words (p.type ++ p.signs)) = Text.words (p.type ++ p.signs) := by
  apply typeWords_eq_self
  rcases Text.words_append_tight p.signs_ne_nil p.signs_tight p.type with h | ⟨first, last, -, h⟩
  · rw [h]
    exact p.not_endsInName (Text.words p.type) []
  · rw [h]
    exact p.not_endsInName first last

lemma parameterType_unnamed : parameterType (p.type ++ p.signs) = squash (Text.collapse p.type) ++ p.signs := by
  rw [parameterType_eq (p.no_value_of_mem_spellings (by simp [spellings])), p.typeWords_eq]
  exact p.squash_collapse

lemma parameterType_named :
    parameterType (p.type ++ p.signs ++ ' ' :: p.name) = squash (Text.collapse p.type) ++ p.signs := by
  have hwords : Text.words (p.type ++ p.signs ++ ' ' :: p.name) = Text.words (p.type ++ p.signs) ++ [p.name] := by
    rw [Text.words_append_blank (by decide),
      Text.words_eq_singleton (ne_nil_of_isIdentifier p.identifier) (isBlank_of_isIdentifier p.identifier)]
  have hne : Text.words (p.type ++ p.signs) ≠ [] := by
    obtain ⟨c, hc⟩ := List.exists_mem_of_ne_nil p.signs p.signs_ne_nil
    exact Text.words_ne_nil (List.mem_append_right p.type hc) (p.signs_tight c hc)
  have hvalue : '=' ∉ p.type ++ p.signs ++ ' ' :: p.name := p.no_value_of_mem_spellings (by simp [spellings])
  rw [parameterType_of_named hvalue hwords hne p.identifier p.not_builtin]
  exact p.squash_collapse

lemma parameterType_signs_at_name :
    parameterType (p.type ++ ' ' :: (p.signs ++ p.name)) = squash (Text.collapse p.type) ++ p.signs := by
  have hname : Text.words (p.signs ++ p.name) = [p.signs ++ p.name] :=
    Text.words_eq_singleton (List.append_ne_nil_of_left_ne_nil p.signs_ne_nil p.name)
      (List.forall_mem_append.mpr ⟨p.signs_tight, isBlank_of_isIdentifier p.identifier⟩)
  rw [parameterType_eq (p.no_value_of_mem_spellings (by simp [spellings])), Text.words_append_blank (by decide), hname,
    typeWords_append_name p.signs p.type_words p.signs_only p.identifier p.not_builtin,
    if_neg (by simpa using p.signs_ne_nil), Text.intercalate_concat [' '] p.type_words]
  exact p.squash_append_space (Text.collapse p.type)

/-- The parameter with a space behind its type, which then counts as part of the type. -/
def detached : SignedParameter :=
  { p with
    type := p.type ++ [' ']
    type_words := by
      rw [Text.words_concat_blank (by decide)]
      exact p.type_words
    no_value := by simp [p.no_value] }

lemma collapse_detached : Text.collapse p.detached.type = Text.collapse p.type := by
  rw [Text.collapse, detached, Text.words_concat_blank (by decide), Text.collapse]

lemma parameterType_of_mem_spellings {spelling : List Char} (h : spelling ∈ p.spellings) :
    parameterType spelling = squash (Text.collapse p.type) ++ p.signs := by
  simp only [spellings, List.mem_cons, List.not_mem_nil, or_false] at h
  rcases h with rfl | rfl | rfl | rfl | rfl
  · exact p.parameterType_unnamed
  · rw [List.append_cons, ← p.collapse_detached]
    exact p.detached.parameterType_unnamed
  · exact p.parameterType_named
  · exact p.parameterType_signs_at_name
  · rw [List.append_cons, ← List.append_assoc, ← p.collapse_detached]
    exact p.detached.parameterType_named

end SignedParameter

/-- However the signs are written, with or without the name and a default value, the type of the parameter is the
collapsed type without spaces before signs, and the signs. -/
theorem spelling_of_signs_is_immaterial (p : SignedParameter) (value : Option (List Char)) :
    ∀ spelling ∈ p.spellings,
      parameterType (spelling ++ writeValue value) = squash (Text.collapse p.type) ++ p.signs := by
  intro spelling h
  cases value with
  | none => rw [writeValue, List.append_nil, p.parameterType_of_mem_spellings h]
  | some value =>
    rw [writeValue, parameterType_append_value (p.no_value_of_mem_spellings h), p.parameterType_of_mem_spellings h]

theorem pointers_to_pointers_are_spelled_alike :
    let p : SignedParameter := ⟨"const  struct Foo * ".toList, "*&".toList, "out".toList, by decide +kernel,
      by decide +kernel, by decide +kernel, List.all_eq_true.mp (by decide +kernel), by decide +kernel,
      by decide +kernel⟩
    p.spellings.map String.ofList = ["const  struct Foo * *&", "const  struct Foo *  *&",
        "const  struct Foo * *& out", "const  struct Foo *  *&out", "const  struct Foo *  *& out"] ∧
      ∀ spelling ∈ p.spellings,
        parameterType (spelling ++ writeValue (some "a==b".toList)) = "const struct Foo**&".toList := by
  intro p
  have htype : squash (Text.collapse p.type) ++ p.signs = "const struct Foo**&".toList := by decide +kernel
  exact ⟨by decide +kernel, htype ▸ spelling_of_signs_is_immaterial p (some "a==b".toList)⟩

end SourceAtlas.Signature
