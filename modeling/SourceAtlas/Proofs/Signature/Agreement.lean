import Mathlib.Data.List.Forall2
import SourceAtlas.Proofs.Signature.Parameters
import SourceAtlas.Proofs.Signature.Types

namespace SourceAtlas.Signature

structure Parameter where
  type : List Char
  name : List Char
  no_value : '=' ∉ type
  enclosed : commasEnclosed 0 type = true
  closed : openAfter 0 type = 0
  kept : normalize type ≠ []
  identifier : isIdentifier name = true
  not_qualifier : name ∉ qualifiers
  not_builtin : name ∉ builtinTypes

structure Prototype where
  result : List Char
  scope : List Char
  name : List Char
  parameters : List Parameter
  tail : List Char
  result_closed : '(' ∉ result
  scope_tight : ∀ c ∈ scope, Text.isBlank c = false
  scope_closed : '(' ∉ scope
  scope_ends : scope = [] ∨ [':', ':'] <:+ scope
  name_ne_nil : name ≠ []
  name_word : ∀ c ∈ name, Text.isWordChar c = true
  name_not_qualifier : name ∉ qualifiers
  tail_open : ')' ∉ tail

def Parameter.text (q : Parameter) : List Char := q.type ++ ' ' :: q.name

def Prototype.text (p : Prototype) : List Char :=
  p.result ++ ' ' :: (p.scope ++ p.name ++
    '(' :: ([',', ' '].intercalate (p.parameters.map Parameter.text) ++ ')' :: p.tail))

variable {name scope : List Char}

lemma afterLast?_eq_none (h : ':' ∉ name) : Text.afterLast? [':', ':'] name = none := by
  induction name with
  | nil => rfl
  | cons c name ih =>
    obtain ⟨hc, hn⟩ := not_or.mp (List.mem_cons.not.mp h)
    simp [Text.afterLast?, ih hn, hc]

lemma afterLast?_append {pat cs rest : List Char} (h : Text.afterLast? pat cs = some rest) (a : List Char) :
    Text.afterLast? pat (a ++ cs) = some rest := by
  induction a with
  | nil => exact h
  | cons c a ih => rw [List.cons_append, Text.afterLast?, ih]

lemma afterLast_scope (hs : scope = [] ∨ ∃ outer, scope = outer ++ [':', ':']) (hn : ':' ∉ name) :
    Text.afterLast [':', ':'] (scope ++ name) = name := by
  rcases hs with rfl | ⟨outer, rfl⟩
  · rw [Text.afterLast, List.nil_append, afterLast?_eq_none hn, Option.getD_none]
  · have hlast : Text.afterLast? [':', ':'] (':' :: ':' :: name) = some name := by
      have hhead : ([':', ':'].isPrefixOf (':' :: name)) = false := by
        cases name with
        | nil => rfl
        | cons c name =>
          have hc := (not_or.mp (List.mem_cons.not.mp hn)).1
          simp [List.isPrefixOf, hc]
      simp [Text.afterLast?, afterLast?_eq_none hn, hhead]
    rw [Text.afterLast, List.append_assoc, List.cons_append, List.singleton_append, afterLast?_append hlast,
      Option.getD_some]

lemma dropQualifiers_cons_mark {x : Char} (hx : Text.isWordChar x = false) (b : List Char) :
    dropQualifiers [] (x :: b) = x :: dropQualifiers [] b := by
  simpa [dropQualifiers, keptWord] using dropQualifiers_append_mark hx [] [] b

namespace Parameter

variable (q : Parameter)

lemma words_text : Text.words (normalize q.text) = Text.words (normalize q.type) ++ [q.name] := by
  have hword := isWordChar_of_isIdentifier q.identifier
  rw [text, words_normalize_append_space, normalize_eq_self hword q.not_qualifier,
    Text.words_eq_singleton (ne_nil_of_isIdentifier q.identifier) (isBlank_of_isIdentifier q.identifier)]

lemma listable_type : Listable q.type := ⟨q.enclosed, q.closed, q.kept⟩

lemma listable_text : Listable q.text := by
  have hname : q.name.filter isDelimiter = [] := by
    refine List.filter_eq_nil_iff.mpr fun c hc hd => ?_
    exact not_mem_of_isWordChar (isWordChar_of_isIdentifier q.identifier) (isWordChar_of_isDelimiter hd) hc
  have hfilter : q.text.filter isDelimiter = q.type.filter isDelimiter := by
    rw [text, List.filter_append, List.filter_cons_of_neg (by decide), hname, List.append_nil]
  refine ⟨?_, ?_, fun he => ?_⟩
  · rw [← commasEnclosed_filter, hfilter, commasEnclosed_filter, q.enclosed]
  · rw [← openAfter_filter, hfilter, openAfter_filter, q.closed]
  · have hw := q.words_text
    rw [he] at hw
    simp [Text.words_nil] at hw

lemma normalize_text_ne_void : normalize q.text ≠ "void".toList := by
  intro he
  have hlen := congrArg List.length q.words_text
  have htype := List.length_pos_iff.mpr (words_normalize_ne_nil q.kept)
  have hvoid : (Text.words "void".toList).length = 1 := by decide
  rw [he, hvoid, List.length_append, List.length_singleton] at hlen
  omega

lemma parameterType_text : parameterType (normalize q.text) = squash (normalize q.type) := by
  have he : '=' ∉ normalize q.text := by
    intro h
    rcases List.mem_append.mp (mem_of_mem_normalize (by decide) h) with hm | hm
    · exact q.no_value hm
    · rcases List.mem_cons.mp hm with hm | hm
      · cases hm
      · exact not_mem_of_isWordChar (isWordChar_of_isIdentifier q.identifier) (by decide) hm
  rw [parameterType_of_named he q.words_text (words_normalize_ne_nil q.kept) q.identifier q.not_builtin,
    join_words_normalize]

end Parameter

namespace Prototype

variable (p : Prototype) {tail : List Char} {ts : List (List Char)}

def bareScope : List Char := dropQualifiers [] p.scope

lemma mem_scope_of_mem_bareScope {c : Char} (h : c ∈ p.bareScope) : c ∈ p.scope :=
  (mem_of_mem_dropQualifiers h).resolve_left (by simp)

lemma bareScope_ends : p.bareScope = [] ∨ ∃ outer, p.bareScope = outer ++ [':', ':'] := by
  rcases p.scope_ends with h | ⟨outer, h⟩
  · exact Or.inl (by rw [bareScope, h]; rfl)
  · refine Or.inr ⟨dropQualifiers [] outer, ?_⟩
    rw [bareScope, ← h, dropQualifiers_append_mark (by decide), dropQualifiers_cons_mark (by decide)]
    rfl

lemma dropQualifiers_scope_name : dropQualifiers [] (p.scope ++ p.name) = p.bareScope ++ p.name := by
  have hname : dropQualifiers [] p.name = p.name := by
    rw [dropQualifiers_word p.name_word, List.nil_append, keptWord_eq_self p.name_not_qualifier]
  rcases p.scope_ends with h | ⟨outer, h⟩
  · rw [bareScope, h]
    exact hname
  · simp only [bareScope, ← h, List.append_assoc, List.cons_append, List.nil_append,
      dropQualifiers_append_mark (show Text.isWordChar ':' = false by decide),
      dropQualifiers_cons_mark (show Text.isWordChar ':' = false by decide), hname]
    rfl

def front : List Char := p.result ++ ' ' :: (p.scope ++ p.name)

lemma words_front : Text.words (normalize p.front) = Text.words (normalize p.result) ++ [p.bareScope ++ p.name] := by
  have htight : ∀ c ∈ p.bareScope ++ p.name, Text.isBlank c = false :=
    List.forall_mem_append.mpr ⟨fun c hc => p.scope_tight c (p.mem_scope_of_mem_bareScope hc),
      fun c hc => Text.isBlank_of_isWordChar (p.name_word c hc)⟩
  rw [front, words_normalize_append_space, normalize, normalize, p.dropQualifiers_scope_name, Text.words_collapse,
    Text.words_collapse,
    Text.words_eq_singleton (List.append_ne_nil_of_right_ne_nil _ p.name_ne_nil) htight]

lemma open_not_mem_front : '(' ∉ p.front := by
  intro h
  rcases List.mem_append.mp h with h | h
  · exact p.result_closed h
  · rcases List.mem_append.mp (List.mem_of_ne_of_mem (by decide) h) with h | h
    · exact p.scope_closed h
    · exact not_mem_of_isWordChar p.name_word (by decide) h

lemma nameOf_front {before : List Char} (hb : ∀ c ∈ before, Text.isBlank c = true) :
    nameOf (normalize p.front ++ before) = p.name := by
  have hhead : ∀ c ∈ p.name.head?, isSign c = false := fun c hc =>
    isSign_of_isWordChar (p.name_word c (List.mem_of_mem_head? hc))
  have hcolon : ':' ∉ p.name := not_mem_of_isWordChar p.name_word (by decide)
  rw [nameOf, Text.words_append_blanks hb, p.words_front, List.getLast?_concat]
  change (Text.afterLast [':', ':'] (p.bareScope ++ p.name)).dropWhile isSign = p.name
  rw [afterLast_scope p.bareScope_ends hcolon, Text.dropWhile_eq_self hhead]

def written (ts : List (List Char)) (tail : List Char) : List Char :=
  p.front ++ '(' :: (writeList ts ++ ')' :: tail)

lemma text_eq_written : p.text = p.written (p.parameters.map Parameter.text) p.tail := by
  simp [text, written, front, writeList]

lemma parse_written (hts : ∀ t ∈ ts, Listable t) (ht : ')' ∉ tail) :
    parse (normalize (p.written ts tail)) =
      ⟨p.name, if ts.map normalize = ["void".toList] then [] else ts.map normalize⟩ := by
  obtain ⟨before, inside, hb, hi, hfront⟩ := exists_normalize_append_mark (x := '(') (by decide) (by decide) p.front
    (writeList ts ++ ')' :: tail)
  obtain ⟨behind, gap, hbehind, hg, hlist⟩ := exists_normalize_append_mark (x := ')') (by decide) (by decide)
    (writeList ts) tail
  have hopen : '(' ∉ normalize p.front ++ before := by
    intro h
    rcases List.mem_append.mp h with h | h
    · exact p.open_not_mem_front (mem_of_mem_normalize (by decide) h)
    · exact absurd (hb _ h) (by decide)
  have hclose : ')' ∉ gap ++ normalize tail := by
    intro h
    rcases List.mem_append.mp h with h | h
    · exact absurd (hg _ h) (by decide)
    · exact ht (mem_of_mem_normalize (by decide) h)
  have hwritten : normalize (p.written ts tail) = (normalize p.front ++ before) ++
      '(' :: ((inside ++ (normalize (writeList ts) ++ behind)) ++ ')' :: (gap ++ normalize tail)) := by
    rw [written, hfront, hlist]
    simp
  rw [hwritten, parse_eq hopen hclose, p.nameOf_front hb, parametersOf_writeList hts hi hbehind]

lemma parse_normalize :
    parse (normalize p.text) = ⟨p.name, p.parameters.map fun q => normalize q.text⟩ := by
  have hvoid : (p.parameters.map Parameter.text).map normalize ≠ ["void".toList] := by
    intro h
    have hm : "void".toList ∈ (p.parameters.map Parameter.text).map normalize := by simp [h]
    obtain ⟨t, ht, he⟩ := List.mem_map.mp hm
    obtain ⟨q, -, rfl⟩ := List.mem_map.mp ht
    exact q.normalize_text_ne_void he
  have hlistable : ∀ t ∈ p.parameters.map Parameter.text, Listable t :=
    List.forall_mem_map.mpr fun q _ => q.listable_text
  rw [text_eq_written, p.parse_written hlistable p.tail_open, if_neg hvoid, List.map_map]
  rfl

end Prototype

/-- Two signatures agree exactly if the names do, there are as many parameters, and their types do one by one
when qualifiers and spaces before signs are left out. Results, scopes, names of parameters and what follows
the parameters do not count. -/
theorem agree_iff_same_name_and_types (p q : Prototype) :
    agree p.text q.text = true ↔
      p.name = q.name ∧
        List.Forall₂ (fun x y => squash (normalize x.type) = squash (normalize y.type)) p.parameters
          q.parameters := by
  have htypes (r : Prototype) : (parse (normalize r.text)).parameters.map parameterType =
      r.parameters.map fun x => squash (normalize x.type) := by
    rw [r.parse_normalize, List.map_map]
    exact List.map_congr_left fun x _ => x.parameterType_text
  have heq (xs ys : List (List Char)) : xs = ys ↔ List.Forall₂ (· = ·) xs ys := by rw [List.forall₂_eq_eq_eq]
  rw [agree, Bool.and_eq_true, beq_iff_eq, beq_iff_eq, htypes, htypes, p.parse_normalize, q.parse_normalize]
  refine and_congr_right fun _ => ?_
  rw [heq, List.forall₂_map_left_iff, List.forall₂_map_right_iff]

theorem differently_written_signatures_agree :
    let table : Parameter := ⟨"const std::map<int, char> &".toList, "table".toList, by decide +kernel,
      by decide +kernel, by decide +kernel, by decide +kernel, by decide +kernel, by decide +kernel,
      by decide +kernel⟩
    let map : Parameter := ⟨"std::map<int,  char>&".toList, "m".toList, by decide +kernel, by decide +kernel,
      by decide +kernel, by decide +kernel, by decide +kernel, by decide +kernel, by decide +kernel⟩
    let defined : Prototype := ⟨"int".toList, "A::B::".toList, "f".toList, [table], " const".toList,
      by decide +kernel, fun c hc => by simpa using List.any_eq_false.mp (by decide +kernel) c hc,
      by decide +kernel, by decide +kernel, by decide +kernel, List.all_eq_true.mp (by decide +kernel),
      by decide +kernel, by decide +kernel⟩
    let declared : Prototype := ⟨"virtual int".toList, [], "f".toList, [map], " = 0;".toList,
      by decide +kernel, by simp, by decide +kernel, by decide +kernel, by decide +kernel,
      List.all_eq_true.mp (by decide +kernel), by decide +kernel, by decide +kernel⟩
    agree defined.text declared.text = true := by
  intro table map defined declared
  have htype : squash (normalize table.type) = squash (normalize map.type) := by decide +kernel
  exact (agree_iff_same_name_and_types defined declared).mpr ⟨rfl, .cons htype .nil⟩

end SourceAtlas.Signature
