import Mathlib.Data.List.Pairwise
import SourceAtlas.Pairing
import SourceAtlas.Proofs.Pairing.Permutation
import SourceAtlas.Proofs.Path.Extensions

namespace SourceAtlas

namespace Path

variable {p q : Path} {earlier tail : List (List Char)} {stem ext : List Char} {e : String}

/-- The name of the path is an extension behind two dots. -/
def HasDotStem (p : Path) : Prop :=
  ∃ e, p.extension? = some e ∧ p.components.getLast? = some (.normal (".." ++ e))

def Beside (p q : Path) : Prop :=
  ∃ directory stem d e, p.extension? = some d ∧ q.extension? = some e ∧
    p.components = directory ++ [.normal (stem ++ "." ++ d)] ∧ q.components = directory ++ [.normal (stem ++ "." ++ e)]

lemma Written.hasDotStem_iff (h : p.Written earlier stem ext tail) : p.HasDotStem ↔ stem = ['.'] := by
  have hlast : p.components.getLast? = some (.normal (String.ofList (stem ++ '.' :: ext))) := by
    rw [h.components, List.getLast?_concat]
  constructor
  · rintro ⟨e, he, hc⟩
    rw [h.extension?, Option.some_inj] at he
    rw [hlast, Option.some_inj, Component.normal.injEq, ← he, ← String.toList_inj] at hc
    have hname : stem ++ ('.' :: ext) = ['.'] ++ ('.' :: ext) := by simpa using hc
    exact List.append_cancel_right hname
  · rintro rfl
    refine ⟨_, h.extension?, ?_⟩
    rw [hlast, Option.some_inj, Component.normal.injEq, ← String.toList_inj]
    simp

lemma Written.endsInName_iff (h : p.Written earlier stem ext tail) : p.endsInName = true ↔ tail = [] := by
  rw [endsInName, h.pieces]
  rcases List.eq_nil_or_concat tail with rfl | ⟨front, last, rfl⟩
  · rw [List.getLast?_concat]
    simp [componentOf?_of_not_idle h.not_idle, h.ne_parent]
  · have hidle : Idle last := h.idle last (by simp)
    have hpieces : earlier ++ (stem ++ '.' :: ext) :: front.concat last =
        (earlier ++ (stem ++ '.' :: ext) :: front) ++ [last] := by simp
    rw [hpieces, List.getLast?_concat]
    simp [componentOf?_eq_none hidle]

lemma pairExtensions_sides {d : String} (h : e ∈ pairExtensions d) :
    (d ∈ headerExtensions ∧ e ∈ implementationExtensions) ∨ (d ∈ implementationExtensions ∧ e ∈ headerExtensions) := by
  unfold pairExtensions at h
  split_ifs at h with hheader hcpp hc
  · exact .inl ⟨List.contains_iff_mem.mp hheader, h⟩
  · have hd : ["cpp", "cc", "cxx", "c++"] ⊆ implementationExtensions := by decide
    have he : cppHeaderExtensions ⊆ headerExtensions := by decide
    exact .inr ⟨hd (List.contains_iff_mem.mp hcpp), he h⟩
  · have hd : ["c", "m", "mm"] ⊆ implementationExtensions := by decide
    have he : ["h"] ⊆ headerExtensions := by decide
    exact .inr ⟨hd (List.contains_iff_mem.mp hc), he h⟩
  · cases h

lemma disjoint_sides {d : String} (hd : d ∈ headerExtensions) : d ∉ implementationExtensions := by
  have hall : ∀ d ∈ headerExtensions, d ∉ implementationExtensions := by decide
  exact hall d hd

lemma ne_of_mem_pairExtensions {d : String} (h : e ∈ pairExtensions d) : e ≠ d := by
  rintro rfl
  obtain ⟨hd, he⟩ | ⟨he, hd⟩ := pairExtensions_sides h <;> exact disjoint_sides hd he

lemma nodup_pairExtensions (d : String) : (pairExtensions d).Nodup := by
  unfold pairExtensions
  split_ifs <;> decide

lemma isExtension_of_mem (h : e ∈ headerExtensions ∨ e ∈ implementationExtensions) : IsExtension e := by
  have hall : ∀ e ∈ headerExtensions ++ implementationExtensions, e ≠ "" ∧ '.' ∉ e.toList ∧ '/' ∉ e.toList := by decide
  obtain ⟨hn, hd, hs⟩ := hall e (List.mem_append.mpr h)
  exact ⟨hn, hd, hs⟩

lemma isExtension_of_mem_pairExtensions {d : String} (h : e ∈ pairExtensions d) : IsExtension e := by
  apply isExtension_of_mem
  obtain ⟨-, he⟩ | ⟨-, he⟩ := pairExtensions_sides h
  · exact .inr he
  · exact .inl he

lemma isHeader_iff (h : p.extension? = some e) : p.isHeader = true ↔ e ∈ headerExtensions := by
  rw [isHeader, h, Option.any_some, List.contains_iff_mem]

section Parent

variable (h : p.pieces = earlier ++ [['.', '.']])

include h

lemma components_of_parent : p.components = directory earlier ++ [.parent] := by
  have hidle : ¬ Idle ['.', '.'] := by simp [Idle]
  rw [components_eq h hidle (List.forall_mem_nil _), componentOf?_of_not_idle hidle]
  rfl

lemma extension?_of_parent : p.extension? = none := by
  rw [extension?, name?, nameAndPieces?_parent h]
  rfl

lemma isHeader_of_parent : p.isHeader = false := by
  rw [isHeader, extension?_of_parent h]
  rfl

end Parent

lemma exists_written_of_isHeader (h : p.isHeader = true) :
    ∃ d earlier stem tail, p.Written earlier stem (String.toList d) tail := by
  cases hd : p.extension? with
  | none =>
    rw [isHeader, hd] at h
    cases h
  | some d =>
    have hside : d ∈ headerExtensions := (isHeader_iff hd).mp h
    exact ⟨d, exists_written hd (isExtension_of_mem (.inl hside)).ne_empty⟩

lemma exists_written_of_mem_pairCandidates {c : Path} (h : c ∈ p.pairCandidates) :
    ∃ d e earlier stem tail, p.Written earlier stem (String.toList d) tail ∧ e ∈ pairExtensions d ∧
      c = p.withExtension e := by
  obtain ⟨e, he, rfl⟩ := List.mem_map.mp h
  cases hd : p.extension? with
  | none =>
    rw [hd] at he
    cases he
  | some d =>
    rw [hd] at he
    have hside : d ∈ headerExtensions ∨ d ∈ implementationExtensions :=
      (pairExtensions_sides he).imp And.left And.left
    obtain ⟨earlier, stem, tail, hw⟩ := exists_written hd (isExtension_of_mem hside).ne_empty
    exact ⟨d, e, earlier, stem, tail, hw, he, rfl⟩

lemma pairCandidates_eq {d : String} (h : p.extension? = some d) :
    p.pairCandidates = (pairExtensions d).map p.withExtension := by
  rw [pairCandidates, h]
  rfl

namespace Written

variable {d : String}

lemma extension?_eq (h : p.Written earlier stem d.toList tail) : p.extension? = some d := by
  rw [h.extension?, String.ofList_toList]

lemma normal_ne {e : String} (h : e ≠ d) :
    Component.normal (String.ofList (stem ++ '.' :: e.toList)) ≠ .normal (String.ofList (stem ++ '.' :: d.toList)) := by
  intro he
  apply h
  have hname := String.ofList_inj.mp (Component.normal.inj he)
  exact String.toList_inj.mp (List.cons.inj (List.append_cancel_left hname)).2

lemma beside (h : p.Written earlier stem d.toList tail) (hq : q.Written earlier stem e.toList []) : p.Beside q := by
  refine ⟨directory earlier, String.ofList stem, d, e, h.extension?_eq, hq.extension?_eq, ?_, ?_⟩
  · rw [h.components]
    congr 3
    simp [← String.toList_inj]
  · rw [hq.components]
    congr 3
    simp [← String.toList_inj]

lemma not_same_of_parent (h : p.Written earlier stem ext tail) (hq : q.pieces = earlier ++ [['.', '.']]) :
    q.same p = false := by
  apply Bool.eq_false_iff.mpr
  rw [Ne, same_iff, h.components, components_of_parent hq]
  simp

lemma not_same_withExtension (h : p.Written earlier stem d.toList tail) (he : e ∈ pairExtensions d) :
    (p.withExtension e).same p = false := by
  by_cases hk : stem = ['.'] ∧ tail = []
  · obtain ⟨rfl, rfl⟩ := hk
    exact h.not_same_of_parent (h.withExtension_of_dot e)
  · have hw := h.withExtension (fun hs ht => hk ⟨hs, ht⟩) (isExtension_of_mem_pairExtensions he)
    apply Bool.eq_false_iff.mpr
    rw [Ne, same_iff, hw.components, h.components, List.append_cancel_left_eq, List.cons.injEq]
    exact fun hc => normal_ne (ne_of_mem_pairExtensions he) hc.1

lemma isHeader_withExtension (h : p.Written earlier stem d.toList tail) (hk : stem = ['.'] → tail ≠ [])
    (he : e ∈ pairExtensions d) : (p.withExtension e).isHeader = !p.isHeader := by
  have hnew := isHeader_iff (h.withExtension hk (isExtension_of_mem_pairExtensions he)).extension?_eq
  have hold := isHeader_iff h.extension?_eq
  obtain ⟨hd, hi⟩ | ⟨hi, hd⟩ := pairExtensions_sides he
  · rw [hold.mpr hd, Bool.eq_false_iff.mpr (mt hnew.mp fun hm => disjoint_sides hm hi)]
    rfl
  · rw [hnew.mpr hd, Bool.eq_false_iff.mpr (mt hold.mp fun hm => disjoint_sides hm hi)]
    rfl

lemma mutual_iff (h : p.Written earlier stem d.toList tail) (hp : p.isHeader = false) (he : e ∈ pairExtensions d) :
    ((p.withExtension e).isHeader = true ∧ ∃ q ∈ (p.withExtension e).pairCandidates, q.same p = true) ↔
      stem ≠ ['.'] := by
  have hd : d ∉ headerExtensions := mt (isHeader_iff h.extension?_eq).mpr (by simp [hp])
  have hsides := (pairExtensions_sides he).resolve_left fun hs => hd hs.1
  constructor
  · rintro ⟨hheader, q, hq, hsame⟩ rfl
    cases tail with
    | nil =>
      rw [isHeader_of_parent (h.withExtension_of_dot e)] at hheader
      cases hheader
    | cons piece tail =>
      have hw := h.withExtension (fun _ => List.cons_ne_nil _ _) (isExtension_of_mem_pairExtensions he)
      obtain ⟨e', -, rfl⟩ := List.mem_map.mp hq
      rw [h.not_same_of_parent (hw.withExtension_of_dot e')] at hsame
      cases hsame
  · intro hs
    have hw := h.withExtension (fun hdot => absurd hdot hs) (isExtension_of_mem_pairExtensions he)
    have hback := hw.withExtension (fun hdot => absurd hdot hs) (isExtension_of_mem (.inr hsides.1))
    refine ⟨(isHeader_iff hw.extension?_eq).mpr hsides.2, (p.withExtension e).withExtension d, ?_, ?_⟩
    · have hpair : pairExtensions e = implementationExtensions := if_pos (List.contains_iff_mem.mpr hsides.2)
      rw [pairCandidates_eq hw.extension?_eq, hpair]
      exact List.mem_map_of_mem hsides.1
    · rw [same_iff, hback.components, h.components]

lemma header_iff (h : p.Written earlier stem d.toList tail) (hp : p.isHeader = true) :
    (p.pairCandidates.map (·.extension?) = implementationExtensions.map some ∧
        ∀ c ∈ p.pairCandidates, c.isHeader = false ∧ p.Beside c) ↔ ¬ (stem = ['.'] ∧ tail = []) := by
  have hd : d ∈ headerExtensions := (isHeader_iff h.extension?_eq).mp hp
  have hpair : pairExtensions d = implementationExtensions := if_pos (List.contains_iff_mem.mpr hd)
  have hcandidates : p.pairCandidates = implementationExtensions.map p.withExtension := by
    rw [pairCandidates_eq h.extension?_eq, hpair]
  rw [hcandidates, List.map_map]
  constructor
  · rintro ⟨hexts, -⟩ ⟨rfl, rfl⟩
    have hcpp := List.map_inj_left.mp hexts "cpp" (by decide)
    rw [Function.comp_apply, extension?_of_parent (h.withExtension_of_dot "cpp")] at hcpp
    cases hcpp
  · intro hk
    have hw {e : String} (he : e ∈ implementationExtensions) : (p.withExtension e).Written earlier stem e.toList [] :=
      h.withExtension (fun hs ht => hk ⟨hs, ht⟩) (isExtension_of_mem (.inr he))
    have hexts : ∀ e ∈ implementationExtensions, (p.withExtension e).extension? = some e :=
      fun e he => (hw he).extension?_eq
    constructor
    · apply List.map_congr_left
      intro e he
      rw [Function.comp_apply, hexts e he]
    · intro c hc
      obtain ⟨e, he, rfl⟩ := List.mem_map.mp hc
      have hheader := isHeader_iff (hexts e he)
      exact ⟨Bool.eq_false_iff.mpr (mt hheader.mp fun hm => disjoint_sides hm he), h.beside (hw he)⟩

lemma pairwise_iff (h : p.Written earlier stem d.toList tail) :
    (p.pairCandidates.Pairwise fun a b => a.same b = false) ↔
      ¬ (stem = ['.'] ∧ tail = []) ∨ p.pairCandidates.length ≤ 1 := by
  rw [pairCandidates_eq h.extension?_eq, List.pairwise_map, List.length_map]
  by_cases hk : stem = ['.'] ∧ tail = []
  · obtain ⟨rfl, rfl⟩ := hk
    have hsame (a b : String) : (p.withExtension a).same (p.withExtension b) = true := by
      rw [same_iff, components_of_parent (h.withExtension_of_dot a), components_of_parent (h.withExtension_of_dot b)]
    rcases pairExtensions d with _ | ⟨a, _ | ⟨b, more⟩⟩
    · simp
    · simp
    · refine iff_of_false (fun hp => ?_) (by simp)
      have hab := (List.pairwise_cons.mp hp).1 b List.mem_cons_self
      rw [hsame] at hab
      cases hab
  · refine iff_of_true ?_ (.inl hk)
    refine (nodup_pairExtensions d).imp_of_mem fun {a b} ha hb hne => ?_
    have hw {e : String} (he : e ∈ pairExtensions d) : (p.withExtension e).Written earlier stem e.toList [] :=
      h.withExtension (fun hs ht => hk ⟨hs, ht⟩) (isExtension_of_mem_pairExtensions he)
    apply Bool.eq_false_iff.mpr
    rw [Ne, same_iff, (hw ha).components, (hw hb).components, List.append_cancel_left_eq, List.cons.injEq]
    exact fun hc => normal_ne hne hc.1

end Written

end Path

namespace Disk

variable {d : Disk} {here : Location}

def Entered (d : Disk) (here : Location) : Prop := ∀ l, l <+: here → l ≠ here → d.entry? l = some .directory

lemma entered_concat (h : d.Entered here) (hd : d.entry? here = some .directory) (c : Path.Component) :
    d.Entered (here ++ [c]) := by
  intro l hl hne
  rcases List.prefix_concat_iff.mp hl with rfl | hl
  · exact absurd rfl hne
  · by_cases heq : l = here
    · rw [heq, hd]
    · exact h l hl heq

lemma entered_dropLast (h : d.Entered here) : d.Entered here.dropLast := by
  intro l hl hne
  refine h l (hl.trans (List.dropLast_prefix here)) ?_
  rintro rfl
  have hle := hl.length_le
  rw [List.length_dropLast] at hle
  have hnil : l = [] := List.length_eq_zero_iff.mp (by omega)
  subst hnil
  exact hne rfl

lemma entry?_dropLast (h : d.Entered here) : d.entry? here.dropLast = some .directory := by
  rcases List.eq_nil_or_concat here with rfl | ⟨front, c, rfl⟩
  · rfl
  · rw [List.concat_eq_append] at h ⊢
    rw [List.dropLast_concat]
    exact h front (List.prefix_append _ _) (by simp)

lemma follow_parent_ne_file (h : d.Entered here) (pieces : List (List Char)) (l : Location) (f : StoredFile) :
    d.follow here (pieces ++ [['.', '.']]) ≠ .ok (l, .file f) := by
  induction pieces generalizing here with
  | nil =>
    have hparent : Path.componentOf? ['.', '.'] = some .parent := by decide
    rw [List.nil_append, follow]
    split
    · nofun
    · nofun
    · rw [hparent]
      dsimp only
      rw [follow, entry?_dropLast h]
      nofun
  | cons piece pieces ih =>
    rw [List.cons_append, follow]
    split
    · nofun
    · nofun
    · rename_i hd
      split
      · exact ih h
      · split
        · exact ih (entered_concat h hd _)
        · nofun
      · exact ih (entered_dropLast h)

lemma isFile_of_parent {p : Path} {earlier : List (List Char)} (hp : p.pieces = earlier ++ [['.', '.']]) (d : Disk) :
    d.isFile p = false := by
  have hentered : d.Entered [] := fun l hl hne => absurd (List.prefix_nil.mp hl) hne
  have hfollow := follow_parent_ne_file hentered earlier
  rw [← hp] at hfollow
  rw [isFile, read]
  split
  · rename_i l f hfind
    rw [find] at hfind
    split_ifs at hfind
    exact absurd hfind (hfollow l f)
  · rfl
  · rfl

end Disk

/-- Candidates change sides: those of an implementation file are headers that have it among their own candidates, and
those of a header are the files beside it with the extensions of implementations. Both fail exactly where the name is an
extension behind two dots, for a header only if the path ends in that name, and there several candidates are one path.
No path is a candidate of itself, and on no disk is a path paired with one of its own side. -/
theorem candidates_change_sides_unless_stem_is_dot (p : Path) :
    (p.isHeader = false → p.pairCandidates ≠ [] →
      ((∀ h ∈ p.pairCandidates, h.isHeader = true ∧ ∃ q ∈ h.pairCandidates, q.same p = true) ↔ ¬ p.HasDotStem)) ∧
    (p.isHeader = true →
      ((p.pairCandidates.map (·.extension?) = implementationExtensions.map some ∧
          ∀ c ∈ p.pairCandidates, c.isHeader = false ∧ p.Beside c) ↔ ¬ (p.HasDotStem ∧ p.endsInName = true))) ∧
    ((p.pairCandidates.Pairwise fun a b => a.same b = false) ↔
      ¬ (p.HasDotStem ∧ p.endsInName = true) ∨ p.pairCandidates.length ≤ 1) ∧
    (∀ c ∈ p.pairCandidates, c.same p = false) ∧
    ∀ (disk : Disk) (q : Path), disk.pairedFile? p = some q → q.same p = false ∧ q.isHeader = !p.isHeader := by
  refine ⟨fun hp hne => ?_, fun hp => ?_, ?_, fun c hc => ?_, fun disk q hq => ?_⟩
  · obtain ⟨c, hc⟩ := List.exists_mem_of_ne_nil _ hne
    obtain ⟨d, e, earlier, stem, tail, hw, he, -⟩ := Path.exists_written_of_mem_pairCandidates hc
    rw [hw.hasDotStem_iff, Path.pairCandidates_eq hw.extension?_eq, List.forall_mem_map]
    exact ⟨fun h => (hw.mutual_iff hp he).mp (h e he), fun hs e he => (hw.mutual_iff hp he).mpr hs⟩
  · obtain ⟨d, earlier, stem, tail, hw⟩ := Path.exists_written_of_isHeader hp
    rw [hw.hasDotStem_iff, hw.endsInName_iff]
    exact hw.header_iff hp
  · rcases List.eq_nil_or_concat p.pairCandidates with hnil | ⟨front, c, hc⟩
    · simp [hnil]
    · have hmem : c ∈ p.pairCandidates := by simp [hc]
      obtain ⟨d, e, earlier, stem, tail, hw, -⟩ := Path.exists_written_of_mem_pairCandidates hmem
      rw [hw.hasDotStem_iff, hw.endsInName_iff]
      exact hw.pairwise_iff
  · obtain ⟨d, e, earlier, stem, tail, hw, he, rfl⟩ := Path.exists_written_of_mem_pairCandidates hc
    exact hw.not_same_withExtension he
  · obtain ⟨d, e, earlier, stem, tail, hw, he, rfl⟩ :=
      Path.exists_written_of_mem_pairCandidates (List.mem_of_find?_eq_some hq)
    refine ⟨hw.not_same_withExtension he, hw.isHeader_withExtension ?_ he⟩
    -- what the name without a stem becomes is no file
    rintro rfl rfl
    have hfile := List.find?_some hq
    rw [Disk.isFile_of_parent (hw.withExtension_of_dot e)] at hfile
    cases hfile

theorem parser_and_its_headers_are_candidates_for_each_other :
    (⟨"src/parser.tab.c++"⟩ : Path).isHeader = false ∧ (⟨"src/parser.tab.c++"⟩ : Path).pairCandidates ≠ [] ∧
      ∀ h ∈ (⟨"src/parser.tab.c++"⟩ : Path).pairCandidates,
        h.isHeader = true ∧ ∃ q ∈ h.pairCandidates, q.same ⟨"src/parser.tab.c++"⟩ = true := by
  have hdot : ¬ (⟨"src/parser.tab.c++"⟩ : Path).HasDotStem := by
    have hlast : (⟨"src/parser.tab.c++"⟩ : Path).components.getLast? = some (.normal "parser.tab.c++") := by
      decide +kernel
    have hext : (⟨"src/parser.tab.c++"⟩ : Path).extension? = some "c++" := by decide +kernel
    rintro ⟨e, he, hc⟩
    rw [hext] at he
    obtain rfl := Option.some.inj he
    rw [hlast] at hc
    exact absurd hc (by decide)
  refine ⟨by decide +kernel, by decide +kernel, ?_⟩
  exact ((candidates_change_sides_unless_stem_is_dot ⟨"src/parser.tab.c++"⟩).1 (by decide +kernel)
    (by decide +kernel)).mpr hdot

/-- All candidates of such a name are the directory above, which is no header and has no candidates. -/
theorem dot_stem_is_paired_with_directory_above :
    (⟨"a/..cpp"⟩ : Path).isHeader = false ∧
      (⟨"a/..cpp"⟩ : Path).pairCandidates = List.replicate 4 ⟨"a/.."⟩ ∧
      (⟨"a/.."⟩ : Path).isHeader = false ∧ (⟨"a/.."⟩ : Path).pairCandidates = [] := by
  decide +kernel

end SourceAtlas
