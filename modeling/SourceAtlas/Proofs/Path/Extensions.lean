import SourceAtlas.Path
import SourceAtlas.Proofs.Text.Splitting

namespace SourceAtlas.Path

open Text

variable {p : Path} {earlier tail : List (List Char)} {name stem ext : List Char}

def Idle (piece : List Char) : Prop := piece = [] ∨ piece = ['.']

lemma idle_of_prefix {piece other : List Char} (h : piece <+: other) (ho : Idle other) : Idle piece := by
  rcases ho with rfl | rfl
  · exact .inl (List.prefix_nil.mp h)
  · cases piece with
    | nil => exact .inl rfl
    | cons c piece =>
      obtain ⟨rfl, hnil⟩ := List.cons_prefix_cons.mp h
      rw [List.prefix_nil.mp hnil]
      exact .inr rfl

lemma idle_iff {piece : List Char} : (piece.isEmpty || piece == ['.']) = true ↔ Idle piece := by
  rw [Bool.or_eq_true, List.isEmpty_iff, beq_iff_eq, Idle]

def directory (earlier : List (List Char)) : List Component :=
  (if earlier.head? = some [] then [.root] else if earlier.head? = some ['.'] then [.current] else []) ++
    earlier.filterMap componentOf?

lemma componentOf?_eq_none {piece : List Char} (h : Idle piece) : componentOf? piece = none := if_pos h

lemma componentOf?_of_not_idle (h : ¬ Idle name) :
    componentOf? name = if name = ['.', '.'] then some .parent else some (.normal (String.ofList name)) := if_neg h

lemma text_eq_intercalate (p : Path) : p.text.toList = ['/'].intercalate p.pieces := (List.intercalate_splitOn '/').symm

lemma slash_not_mem_of_mem_pieces {piece : List Char} (h : piece ∈ p.pieces) : '/' ∉ piece := not_mem_of_mem_splitOn h

lemma components_of_root {next : List Char} {more : List (List Char)} (hp : p.pieces = [] :: next :: more) :
    p.components = .root :: p.pieces.filterMap componentOf? := by
  have htext : p.text.toList = '/' :: ['/'].intercalate (next :: more) := by
    rw [text_eq_intercalate, hp, List.intercalate_cons_of_ne_nil (List.cons_ne_nil next more)]
    rfl
  rw [components, htext]
  rfl

lemma components_of_ne_nil {first : List Char} {more : List (List Char)} (hp : p.pieces = first :: more)
    (hf : first ≠ []) :
    p.components = (if first = ['.'] then [.current] else []) ++ p.pieces.filterMap componentOf? := by
  obtain ⟨c, first, rfl⟩ := List.exists_cons_of_ne_nil hf
  have hslash : '/' ∉ c :: first := slash_not_mem_of_mem_pieces (p := p) (by simp [hp])
  have htext : p.text.toList = c :: ['/'].intercalate (first :: more) := by
    rw [text_eq_intercalate, hp]
    exact intercalate_cons_append ['/'] [c] first more
  rw [components, htext]
  split
  · rename_i heq
    obtain ⟨rfl, -⟩ := List.cons.inj heq
    simp at hslash
  · simp only [hp, List.head?_cons, Option.some.injEq]
    split <;> rfl

lemma filterMap_componentOf?_tail (ht : ∀ piece ∈ tail, Idle piece) : tail.filterMap componentOf? = [] :=
  List.filterMap_eq_nil_iff.mpr fun piece hp => componentOf?_eq_none (ht piece hp)

lemma components_eq (hp : p.pieces = earlier ++ name :: tail) (hn : ¬ Idle name) (ht : ∀ piece ∈ tail, Idle piece) :
    p.components = directory earlier ++ (componentOf? name).toList := by
  have hsteps : p.pieces.filterMap componentOf? = earlier.filterMap componentOf? ++ (componentOf? name).toList := by
    rw [hp, List.filterMap_append, List.filterMap_cons, filterMap_componentOf?_tail ht]
    cases componentOf? name <;> rfl
  cases earlier with
  | nil =>
    rw [List.nil_append] at hp
    rw [components_of_ne_nil hp fun he => hn (.inl he), if_neg fun he => hn (.inr he), hsteps]
    rfl
  | cons first more =>
    by_cases hf : first = []
    · subst hf
      obtain ⟨next, rest, hm⟩ := List.exists_cons_of_ne_nil (show more ++ name :: tail ≠ [] by simp)
      rw [List.cons_append, hm] at hp
      rw [components_of_root hp, hsteps]
      rfl
    · rw [components_of_ne_nil hp hf, hsteps]
      simp only [directory, List.head?_cons, Option.some.injEq, hf, if_false, List.append_assoc]

lemma nameAndPieces?_eq (hp : p.pieces = earlier ++ name :: tail) (hn : ¬ Idle name)
    (ht : ∀ piece ∈ tail, Idle piece) (hparent : name ≠ ['.', '.']) : p.nameAndPieces? = some (name, earlier) := by
  have hdrop : (p.pieces.reverse.dropWhile fun piece => piece.isEmpty || piece == ['.']) = name :: earlier.reverse := by
    have htail : ∀ piece ∈ tail.reverse, (piece.isEmpty || piece == ['.']) = true := fun piece hm =>
      idle_iff.mpr (ht piece (List.mem_reverse.mp hm))
    rw [hp, List.reverse_append, List.reverse_cons, List.append_assoc, List.dropWhile_append_of_pos htail,
      List.singleton_append, List.dropWhile_cons_of_neg (by rwa [idle_iff])]
  rw [nameAndPieces?, hdrop]
  dsimp only
  rw [if_neg hparent, List.reverse_reverse]

lemma nameAndPieces?_parent (hp : p.pieces = earlier ++ [['.', '.']]) : p.nameAndPieces? = none := by
  have hdrop : (p.pieces.reverse.dropWhile fun piece => piece.isEmpty || piece == ['.']) =
      ['.', '.'] :: earlier.reverse := by
    rw [hp, List.reverse_append]
    rfl
  rw [nameAndPieces?, hdrop]
  rfl

lemma pieces_of_nameAndPieces? (h : p.nameAndPieces? = some (name, earlier)) :
    ∃ tail, p.pieces = earlier ++ name :: tail ∧ ∀ piece ∈ tail, Idle piece := by
  rw [nameAndPieces?] at h
  split at h
  · cases h
  · rename_i last front hdrop
    split at h
    · cases h
    · obtain ⟨rfl, rfl⟩ := Prod.mk.inj (Option.some.inj h)
      have hparts := List.takeWhile_append_dropWhile (p := fun piece => piece.isEmpty || piece == ['.'])
        (l := p.pieces.reverse)
      rw [hdrop] at hparts
      refine ⟨(p.pieces.reverse.takeWhile fun piece => piece.isEmpty || piece == ['.']).reverse, ?_, ?_⟩
      · have hpieces := congrArg List.reverse hparts
        simpa using hpieces.symm
      · intro piece hm
        have htest := List.mem_takeWhile_imp (List.mem_reverse.mp hm)
        exact idle_iff.mp htest

lemma cutName_append (hs : stem ≠ []) (hd : '.' ∉ ext) : cutName (stem ++ '.' :: ext) = (stem, some ext) := by
  have hrev : (stem ++ '.' :: ext).reverse = ext.reverse ++ '.' :: stem.reverse := by simp
  have hext : ((stem ++ '.' :: ext).reverse.takeWhile (· != '.')).reverse = ext := by
    rw [hrev, takeWhile_ne_append_cons (by simpa using hd), List.reverse_reverse]
  have hstem : (stem ++ '.' :: ext).take ((stem ++ '.' :: ext).length - ext.length - 1) = stem := by
    have hlength : (stem ++ '.' :: ext).length - ext.length - 1 = stem.length := by
      simp only [List.length_append, List.length_cons]
      omega
    rw [hlength, List.take_left]
  simp only [cutName, hext, hstem]
  simp [hs]

lemma eq_append_of_cutName (h : (cutName name).2 = some ext) :
    ∃ stem, name = stem ++ '.' :: ext ∧ stem ≠ [] ∧ '.' ∉ ext := by
  by_cases hm : '.' ∈ name
  · obtain ⟨last, front, hr, hl⟩ := List.eq_append_cons_of_mem (List.mem_reverse.mpr hm)
    have hname : name = front.reverse ++ '.' :: last.reverse := by
      rw [← List.reverse_reverse name, hr]
      simp
    by_cases hs : front.reverse = []
    · rw [hs, List.nil_append] at hname
      have hnone : (cutName ('.' :: last.reverse)).2 = none := by
        have htake : (last ++ ['.']).takeWhile (· != '.') = last := takeWhile_ne_append_cons hl []
        simp [cutName, htake]
      rw [hname, hnone] at h
      cases h
    · rw [hname, cutName_append hs (by simpa using hl)] at h
      obtain rfl := Option.some.inj h
      exact ⟨_, hname, hs, by simpa using hl⟩
  · simp [cutName, hm] at h

/-- A path with an extension, as it is written: the pieces before the name, the name, and pieces that add nothing. -/
structure Written (p : Path) (earlier : List (List Char)) (stem ext : List Char) (tail : List (List Char)) : Prop where
  pieces : p.pieces = earlier ++ (stem ++ '.' :: ext) :: tail
  stem_ne_nil : stem ≠ []
  ext_ne_nil : ext ≠ []
  dot : '.' ∉ ext
  idle : ∀ piece ∈ tail, Idle piece

namespace Written

variable (h : p.Written earlier stem ext tail)

include h

lemma two_lt_length : 2 < (stem ++ '.' :: ext).length := by
  have hs := List.length_pos_iff.mpr h.stem_ne_nil
  have he := List.length_pos_iff.mpr h.ext_ne_nil
  simp only [List.length_append, List.length_cons]
  omega

lemma not_idle : ¬ Idle (stem ++ '.' :: ext) := by
  have hl := h.two_lt_length
  rintro (he | he) <;> simp [he] at hl

lemma ne_parent : stem ++ '.' :: ext ≠ ['.', '.'] := by
  have hl := h.two_lt_length
  intro he
  simp [he] at hl

lemma components : p.components = directory earlier ++ [.normal (String.ofList (stem ++ '.' :: ext))] := by
  rw [components_eq h.pieces h.not_idle h.idle, componentOf?_of_not_idle h.not_idle, if_neg h.ne_parent]
  rfl

lemma extension? : p.extension? = some (String.ofList ext) := by
  rw [Path.extension?, name?, nameAndPieces?_eq h.pieces h.not_idle h.idle h.ne_parent, Option.map_some,
    Option.bind_some, cutName_append h.stem_ne_nil h.dot, Option.map_some]

end Written

lemma exists_written {e : String} (h : p.extension? = some e) (he : e ≠ "") :
    ∃ earlier stem tail, p.Written earlier stem e.toList tail := by
  rw [extension?, name?] at h
  obtain ⟨name, hname, hcut⟩ := Option.bind_eq_some_iff.mp h
  obtain ⟨⟨_, earlier⟩, hpieces, rfl⟩ := Option.map_eq_some_iff.mp hname
  obtain ⟨ext, hext, rfl⟩ := Option.map_eq_some_iff.mp hcut
  obtain ⟨tail, hp, ht⟩ := pieces_of_nameAndPieces? hpieces
  obtain ⟨stem, rfl, hs, hd⟩ := eq_append_of_cutName hext
  rw [String.toList_ofList]
  refine ⟨earlier, stem, tail, hp, hs, ?_, hd, ht⟩
  rintro rfl
  exact he rfl

namespace Written

lemma dropExtension_text (h : p.Written earlier stem ext tail) :
    let gap := tail.flatMap ('/' :: ·)
    p.dropExtension.text.toList =
      earlier.flatMap (· ++ ['/']) ++ (stem ++ '.' :: (ext ++ gap).take gap.length) := by
  intro gap
  have htext : p.text.toList = earlier.flatMap (· ++ ['/']) ++ (stem ++ '.' :: (ext ++ gap)) := by
    rw [text_eq_intercalate, h.pieces, intercalate_append _ _ (List.cons_ne_nil _ _), intercalate_cons_eq_flatMap]
    simp [gap]
  have hcut : p.text.length - (String.ofList ext).length =
      (earlier.flatMap (· ++ ['/']) ++ (stem ++ ['.'])).length + gap.length := by
    rw [← String.length_toList, htext, String.length_ofList]
    simp only [List.length_append, List.length_cons, List.length_nil]
    omega
  have hparts : p.text.toList = (earlier.flatMap (· ++ ['/']) ++ (stem ++ ['.'])) ++ (ext ++ gap) := by
    rw [htext]
    simp
  rw [dropExtension, h.extension?]
  dsimp only
  rw [String.toList_ofList, hcut, hparts, List.take_length_add_append]
  simp

lemma slash_not_mem_name (h : p.Written earlier stem ext tail) : '/' ∉ stem ++ '.' :: ext :=
  slash_not_mem_of_mem_pieces (p := p) (by simp [h.pieces])

lemma slash_not_mem_earlier (h : p.Written earlier stem ext tail) : ∀ piece ∈ earlier, '/' ∉ piece :=
  fun piece hp => slash_not_mem_of_mem_pieces (p := p) (by simp [h.pieces, hp])

lemma slash_not_mem_stem (h : p.Written earlier stem ext tail) : '/' ∉ stem :=
  fun hm => h.slash_not_mem_name (List.mem_append_left _ hm)

lemma slash_not_mem_ext (h : p.Written earlier stem ext tail) : '/' ∉ ext :=
  fun hm => h.slash_not_mem_name (List.mem_append_right _ (List.mem_cons_of_mem _ hm))

/-- As many characters are cut off the end of a path as its extension has. With separators behind the name, a beginning
of the extension is left, or all of it. -/
lemma pieces_dropExtension (h : p.Written earlier stem ext tail) :
    ∃ rest more, p.dropExtension.pieces = earlier ++ (stem ++ '.' :: rest) :: more ∧ rest <+: ext ∧
      (∀ piece ∈ more, Idle piece) ∧ (rest = [] → tail = []) := by
  have hwhole : List.splitOn '/' (ext ++ tail.flatMap ('/' :: ·)) = ext :: tail := by
    rw [← intercalate_cons_eq_flatMap, List.splitOn_intercalate '/' ?_ (List.cons_ne_nil _ _)]
    refine List.forall_mem_cons.mpr ⟨h.slash_not_mem_ext, fun piece hp => ?_⟩
    exact slash_not_mem_of_mem_pieces (p := p) (by simp [h.pieces, hp])
  obtain ⟨rest, more, hsplit, hrest, hmore⟩ :=
    exists_splitOn_of_prefix (List.take_prefix (tail.flatMap ('/' :: ·)).length _) hwhole
  refine ⟨rest, more, ?_, hrest, fun piece hp => ?_, fun hnil => ?_⟩
  · have hname : '/' ∉ stem ++ ['.'] := by simpa using h.slash_not_mem_stem
    have hcut := splitOn_append_of_not_mem hname hsplit
    simp only [List.append_assoc, List.singleton_append] at hcut
    rw [Path.pieces, h.dropExtension_text, splitOn_flatMap_append h.slash_not_mem_earlier, hcut]
  · obtain ⟨other, ho, hpre⟩ := hmore piece hp
    exact idle_of_prefix hpre (h.idle other ho)
  · cases tail with
    | nil => rfl
    | cons piece tail =>
      obtain ⟨c, ext, rfl⟩ := List.exists_cons_of_ne_nil h.ext_ne_nil
      have hc : ¬ (c == '/') = true := fun hc => h.slash_not_mem_ext (by simp [beq_iff_eq.mp hc])
      rw [List.flatMap_cons, List.cons_append, List.cons_append, List.length_cons, List.take_succ_cons,
        List.splitOn_cons_eq_if_modifyHead, if_neg hc] at hsplit
      obtain ⟨first, others, hs⟩ := List.exists_cons_of_ne_nil (List.splitOn_ne_nil '/'
        ((ext ++ '/' :: (piece ++ tail.flatMap ('/' :: ·))).take (piece ++ tail.flatMap ('/' :: ·)).length))
      rw [hs] at hsplit
      rw [← (List.cons.inj hsplit).1] at hnil
      cases hnil

lemma pieces_dropExtension_of_no_tail (h : p.Written earlier stem ext []) :
    p.dropExtension.pieces = earlier ++ [stem ++ ['.']] := by
  have hname : '/' ∉ stem ++ ['.'] := by simpa using h.slash_not_mem_stem
  have htext : p.dropExtension.text.toList = earlier.flatMap (· ++ ['/']) ++ (stem ++ ['.']) := h.dropExtension_text
  rw [Path.pieces, htext, splitOn_flatMap_append h.slash_not_mem_earlier, List.splitOn_eq_singleton hname]

end Written

structure IsExtension (e : String) : Prop where
  ne_empty : e ≠ ""
  dot : '.' ∉ e.toList
  slash : '/' ∉ e.toList

namespace Written

lemma withExtension (h : p.Written earlier stem ext tail) (hk : stem = ['.'] → tail ≠ []) {e : String}
    (he : IsExtension e) : (p.withExtension e).Written earlier stem e.toList [] := by
  obtain ⟨rest, more, hpieces, hrest, hmore, htail⟩ := h.pieces_dropExtension
  have hdot : '.' ∉ rest := fun hm => h.dot (hrest.subset hm)
  have hstem := List.length_pos_iff.mpr h.stem_ne_nil
  have hidle : ¬ Idle (stem ++ '.' :: rest) := by
    rintro (hi | hi) <;> have hl := congrArg List.length hi
    · simp at hl
    · simp only [List.length_append, List.length_cons, List.length_nil] at hl
      omega
  have hparent : stem ++ '.' :: rest ≠ ['.', '.'] := by
    intro hi
    have hl := congrArg List.length hi
    simp only [List.length_append, List.length_cons, List.length_nil] at hl
    have hnil : rest = [] := List.length_eq_zero_iff.mp (by omega)
    subst hnil
    exact hk (List.append_cancel_right (show stem ++ ['.'] = ['.'] ++ ['.'] from hi)) (htail rfl)
  have hset : p.withExtension e = ⟨String.ofList (['/'].intercalate (earlier ++ [stem ++ '.' :: e.toList]))⟩ := by
    rw [Path.withExtension, setExtension, nameAndPieces?_eq hpieces hidle hmore hparent]
    dsimp only
    rw [cutName_append h.stem_ne_nil hdot]
  refine ⟨?_, h.stem_ne_nil, fun hn => he.ne_empty (String.toList_inj.mp hn), he.dot, List.forall_mem_nil _⟩
  rw [hset, Path.pieces, String.toList_ofList, List.splitOn_intercalate '/' ?_ (by simp)]
  refine List.forall_mem_append.mpr ⟨h.slash_not_mem_earlier, List.forall_mem_singleton.mpr ?_⟩
  simpa using ⟨h.slash_not_mem_stem, he.slash⟩

lemma withExtension_of_dot (h : p.Written earlier ['.'] ext []) (e : String) :
    (p.withExtension e).pieces = earlier ++ [['.', '.']] := by
  have hpieces := h.pieces_dropExtension_of_no_tail
  rw [Path.withExtension, setExtension, nameAndPieces?_parent hpieces]
  exact hpieces

end Written

end SourceAtlas.Path
