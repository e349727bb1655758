import SourceAtlas.Proofs.Signature.Types
import SourceAtlas.Proofs.Text.Occurrences

/-! The name of a method is read behind the first `owner::` of a signature that is a whole word. -/

namespace SourceAtlas.Signature

variable {owner method cs result : List Char}

structure Scoped (owner cs before rest : List Char) : Prop where
  written : cs = before ++ (owner ++ [':', ':'] ++ rest)
  whole : ∀ c ∈ before.getLast?, Text.isWordChar c = false

def Mentions (owner cs : List Char) : Prop := ∃ before rest, Scoped owner cs before rest

def firstScope? (owner cs : List Char) : Option Text.Occurrence :=
  (Text.occurrences (owner ++ [':', ':']) cs).find? (!·.before.any Text.isWordChar)

lemma scoped_of_firstScope? {found : Text.Occurrence} (h : firstScope? owner cs = some found) :
    ∃ before, Scoped owner cs before found.rest := by
  obtain ⟨a, hw, hb⟩ := Text.exists_of_mem_occurrencesFrom (List.mem_of_find?_eq_some h)
  rw [Option.or_none] at hb
  refine ⟨a, hw, fun c hc => ?_⟩
  have hwhole := List.find?_some h
  rw [hb, Option.mem_def.mp hc] at hwhole
  simpa using hwhole

lemma unbordered_scope (hn : owner ≠ []) (hc : ':' ∉ owner) : Text.Unbordered (owner ++ [':', ':']) := by
  intro part hne hpre hsuf
  rw [List.append_cons] at hpre hsuf ⊢
  obtain ⟨start, rfl, hstart⟩ := (List.suffix_concat_iff.mp hsuf).resolve_left hne
  rcases List.prefix_concat_iff.mp hpre with he | hpre
  · exact he
  · exfalso
    rcases List.prefix_concat_iff.mp hpre with he | hpre
    · -- The part is `owner:`, so that `owner` ends `owner:`.
      rw [List.append_cancel_right he] at hstart
      obtain ⟨init, rfl, -⟩ := (List.suffix_concat_iff.mp hstart).resolve_left hn
      exact hc (by simp)
    · exact hc (hpre.subset (by simp))

lemma not_mentions_iff (hi : isIdentifier owner = true) : ¬ Mentions owner cs ↔ firstScope? owner cs = none := by
  have hcolon : ':' ∉ owner := not_mem_of_isWordChar (isWordChar_of_isIdentifier hi) (by decide)
  constructor
  · intro hn
    refine Option.eq_none_iff_forall_ne_some.mpr fun found hf => hn ?_
    obtain ⟨a, ha⟩ := scoped_of_firstScope? hf
    exact ⟨a, found.rest, ha⟩
  · rintro hn ⟨a, b, rfl, hwhole⟩
    have hm : ⟨a.getLast?.or none, b⟩ ∈
        Text.occurrences (owner ++ [':', ':']) (a ++ (owner ++ [':', ':'] ++ b)) :=
      Text.mem_occurrencesFrom (by simp) (unbordered_scope (ne_nil_of_isIdentifier hi) hcolon) b (Nat.zero_le _)
    have hf := List.find?_eq_none.mp hn _ hm
    cases hl : a.getLast? with
    | none => simp [hl] at hf
    | some c => simp [hl, hwhole c hl] at hf

lemma firstScope?_append (hi : isIdentifier owner = true) (result rest : List Char) :
    firstScope? owner (result ++ ' ' :: (owner ++ [':', ':'] ++ rest)) =
      ((firstScope? owner result).map (·.extend (' ' :: (owner ++ [':', ':'] ++ rest)))).or
        (some ⟨some ' ', rest⟩) := by
  have hspace : ' ' ∉ owner ++ [':', ':'] := by
    intro hm
    rcases List.mem_append.mp hm with hm | hm
    · exact not_mem_of_isWordChar (isWordChar_of_isIdentifier hi) (by decide) hm
    · exact absurd hm (by decide)
  have hn : owner ++ [':', ':'] ≠ [] := by simp
  obtain ⟨more, hmore⟩ := Text.occurrencesFrom_pat_append hn (some ' ') rest
  have hfirst : (⟨some ' ', rest⟩ :: more : List Text.Occurrence).find? (!·.before.any Text.isWordChar) =
      some ⟨some ' ', rest⟩ := List.find?_cons_of_pos (show (!Text.isWordChar ' ') = true by decide)
  rw [firstScope?, Text.occurrences, Text.occurrencesFrom_append_cons hn hspace _ (Nat.zero_le _), hmore,
    List.find?_append, List.find?_map, hfirst]
  rfl

def nameBefore (rest : List Char) : List Char := Text.trim (rest.takeWhile (· != '('))

lemma methodOf?_eq (owner cs : List Char) :
    methodOf? owner cs = (firstScope? owner cs).bind fun found =>
      if found.rest.contains '(' && !(nameBefore found.rest).isEmpty then some (nameBefore found.rest)
      else none := by
  rw [methodOf?]
  split
  · rename_i hf
    have hnone : firstScope? owner cs = none := hf
    rw [hnone, Option.bind_none]
  · rename_i found hf
    have hsome : firstScope? owner cs = some found := hf
    rw [hsome, Option.bind_some]
    rfl

lemma methodOf?_eq_some_iff :
    methodOf? owner cs = some method ↔
      ∃ found, firstScope? owner cs = some found ∧ '(' ∈ found.rest ∧ nameBefore found.rest = method ∧
        method ≠ [] := by
  simp only [methodOf?_eq, Option.bind_eq_some_iff, Option.ite_none_right_eq_some, Option.some.injEq,
    Bool.and_eq_true, List.contains_iff_mem, Bool.not_eq_true', List.isEmpty_eq_false_iff, and_assoc]
  refine exists_congr fun found => and_congr_right fun _ => and_congr_right fun _ => ⟨?_, ?_⟩
  · rintro ⟨hn, rfl⟩
    exact ⟨rfl, hn⟩
  · rintro ⟨rfl, hn⟩
    exact ⟨hn, rfl⟩

def Defines (owner method cs : List Char) : Prop :=
  ∃ before rest, Scoped owner cs before rest ∧ '(' ∈ rest ∧ nameBefore rest = method ∧ method ≠ []

lemma defines_of_methodOf? (h : methodOf? owner cs = some method) : Defines owner method cs := by
  obtain ⟨found, hf, hrest⟩ := methodOf?_eq_some_iff.mp h
  obtain ⟨a, ha⟩ := scoped_of_firstScope? hf
  exact ⟨a, found.rest, ha, hrest⟩

lemma nameBefore_identifier (hm : isIdentifier method = true) (more : List Char) :
    nameBefore (method ++ '(' :: more) = method := by
  have hblank := isBlank_of_isIdentifier hm
  rw [nameBefore, Text.takeWhile_ne_append_cons (not_mem_of_isWordChar (isWordChar_of_isIdentifier hm) (by decide))]
  exact Text.trim_eq_self (fun c hc => hblank c (List.mem_of_mem_head? hc))
    (fun c hc => hblank c (List.mem_of_mem_getLast? hc))

lemma methodOf?_definition (ho : isIdentifier owner = true) (hm : isIdentifier method = true)
    (hr : '(' ∉ result) (more : List Char) :
    methodOf? owner (result ++ ' ' :: (owner ++ [':', ':'] ++ (method ++ '(' :: more))) = some method ↔
      ¬ Mentions owner result := by
  rw [methodOf?_eq_some_iff, firstScope?_append ho, not_mentions_iff ho]
  cases hf : firstScope? owner result with
  | none =>
    refine iff_of_true ⟨_, rfl, ?_, nameBefore_identifier hm more, ne_nil_of_isIdentifier hm⟩ rfl
    exact List.mem_append_right method List.mem_cons_self
  | some found =>
    refine iff_of_false ?_ nofun
    rintro ⟨_, ⟨⟩, -, hname, -⟩
    obtain ⟨a, ha⟩ := scoped_of_firstScope? hf
    -- The name that is read reaches to the parameters, over the owner's scope in front of the method.
    have hopen : '(' ∉ found.rest ++ ' ' :: (owner ++ [':', ':'] ++ method) := by
      have hrest : '(' ∉ found.rest := fun hp => hr (by simp [ha.written, hp])
      have howner := not_mem_of_isWordChar (c := '(') (isWordChar_of_isIdentifier ho) (by decide)
      have hmethod := not_mem_of_isWordChar (c := '(') (isWordChar_of_isIdentifier hm) (by decide)
      simp [hrest, howner, hmethod]
    have htext : (found.extend (' ' :: (owner ++ [':', ':'] ++ (method ++ '(' :: more)))).rest =
        found.rest ++ ' ' :: (owner ++ [':', ':'] ++ method) ++ '(' :: more := by simp [Text.Occurrence.extend]
    rw [htext, nameBefore, Text.takeWhile_ne_append_cons hopen] at hname
    have hcolon : ':' ∈ method := hname ▸ Text.mem_trim (by decide) (by simp)
    exact not_mem_of_isWordChar (isWordChar_of_isIdentifier hm) (by decide) hcolon

end SourceAtlas.Signature
