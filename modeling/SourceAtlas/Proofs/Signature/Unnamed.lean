import SourceAtlas.Proofs.Signature.Agreement

namespace SourceAtlas.Signature

variable {t : List Char} {ws : List (List Char)}

lemma filter_squash (cs : List Char) : (squash cs).filter (· != ' ') = cs.filter (· != ' ') := by
  induction cs with
  | nil => rfl
  | cons c cs ih =>
    rw [squash]
    split
    · rename_i h
      simp [ih, h.1]
    · simp only [List.filter_cons, ih]

lemma filter_squash_join (ws : List (List Char)) :
    (squash ([' '].intercalate ws)).filter (· != ' ') = ws.flatten.filter (· != ' ') := by
  rw [filter_squash, Text.filter_intercalate [' '] rfl]

lemma squash_typeWords_ne (h : EndsInName ws) :
    squash ([' '].intercalate (typeWords ws)) ≠ squash ([' '].intercalate ws) := by
  obtain ⟨first, signs, name, rfl, hw, hs, hi, hb⟩ := h
  intro he
  have hsigns : (if signs.isEmpty then [] else [signs] : List (List Char)).flatten = signs := by
    cases signs <;> simp
  have hcount := congrArg (List.filter (· != ' ')) he
  simp only [typeWords_append_name signs hw hs hi hb, filter_squash_join, List.flatten_append, hsigns,
    List.flatten_singleton, List.filter_append, ← List.append_assoc] at hcount
  have hname : name.filter (· != ' ') = [] := List.append_right_eq_self.mp hcount.symm
  obtain ⟨c, hc⟩ := List.exists_mem_of_ne_nil _ (ne_nil_of_isIdentifier hi)
  have hspace := List.filter_eq_nil_iff.mp hname c hc
  have hword := isWordChar_of_isIdentifier hi c hc
  have hc : c = ' ' := by simpa using hspace
  rw [hc] at hword
  exact absurd hword (by decide)

lemma parameterType_normalize_iff (he : '=' ∉ t) :
    parameterType (normalize t) = squash (normalize t) ↔ ¬ EndsInName (Text.words (normalize t)) := by
  have hn : '=' ∉ normalize t := fun h => he (mem_of_mem_normalize (by decide) h)
  have hjoin : squash (normalize t) = squash ([' '].intercalate (Text.words (normalize t))) := by
    rw [join_words_normalize]
  rw [parameterType_eq hn, hjoin]
  constructor
  · exact fun h hends => squash_typeWords_ne hends h
  · intro h
    rw [typeWords_eq_self h]

namespace Prototype

def unnamed (p : Prototype) : List Char := p.written (p.parameters.map Parameter.type) [';']

lemma parse_unnamed (p : Prototype) :
    let types := p.parameters.map fun q => normalize q.type
    parse (normalize p.unnamed) = ⟨p.name, if types = ["void".toList] then [] else types⟩ := by
  have hlistable : ∀ t ∈ p.parameters.map Parameter.type, Listable t :=
    List.forall_mem_map.mpr fun q _ => q.listable_type
  rw [unnamed, p.parse_written hlistable (by decide), List.map_map]
  rfl

end Prototype

/-- A prototype without names agrees with the definition exactly if no type ends in a word that is taken for a
name, and its only parameter is not `void`. -/
theorem unnamed_agrees_iff_no_type_ends_in_name (p : Prototype) :
    agree p.unnamed p.text = true ↔
      (∀ q ∈ p.parameters, ¬ EndsInName (Text.words (normalize q.type))) ∧
        p.parameters.map (fun q => normalize q.type) ≠ ["void".toList] := by
  have hnamed : (p.parameters.map fun q => normalize q.text).map parameterType =
      p.parameters.map fun q => squash (normalize q.type) := by
    rw [List.map_map]
    exact List.map_congr_left fun q _ => q.parameterType_text
  rw [agree, Bool.and_eq_true, beq_iff_eq, beq_iff_eq, p.parse_normalize, p.parse_unnamed, hnamed]
  by_cases hvoid : p.parameters.map (fun q => normalize q.type) = ["void".toList]
  · rw [if_pos hvoid]
    refine iff_of_false ?_ fun h => h.2 hvoid
    rintro ⟨-, he⟩
    have hlen := congrArg List.length hvoid
    rw [List.map_nil, eq_comm, List.map_eq_nil_iff] at he
    simp [he] at hlen
  · rw [if_neg hvoid, List.map_map, List.map_inj_left]
    simp only [true_and, Function.comp_apply, ne_eq, hvoid, not_false_eq_true, and_true]
    exact forall₂_congr fun q _ => parameterType_normalize_iff q.no_value

example :
    agree "void f(std::map<int, char> const &, unsigned long, struct Foo *);".toList
      "void f(std::map<int, char> const & table, unsigned long count, struct Foo * first)".toList = true := by
  decide +kernel

/-- `Foo` is taken for the name of a parameter of type `struct`. -/
theorem unnamed_structure_does_not_agree :
    let foo : Parameter := ⟨"struct Foo".toList, "x".toList, by decide +kernel, by decide +kernel, by decide +kernel,
      by decide +kernel, by decide +kernel, by decide +kernel, by decide +kernel⟩
    let p : Prototype := ⟨"void".toList, [], "use".toList, [foo], [], by decide +kernel, nofun, List.not_mem_nil,
      .inl rfl, by decide +kernel, List.all_eq_true.mp (by decide +kernel), by decide +kernel, List.not_mem_nil⟩
    p.unnamed = "void use(struct Foo);".toList ∧ p.text = "void use(struct Foo x)".toList ∧
      normalize foo.type ≠ "void".toList ∧ agree p.unnamed p.text = false := by
  intro foo p
  refine ⟨by decide +kernel, by decide +kernel, by decide +kernel, by decide +kernel⟩

end SourceAtlas.Signature
