import SourceAtlas.Extract.Java
import SourceAtlas.Extract.Kotlin
import SourceAtlas.Proofs.List.Search
import SourceAtlas.Proofs.Text.Splitting

namespace SourceAtlas.Package

variable {root cs cs' before before' rest rest' : List Char} {o : Text.Occurrence} {p q : Path}

structure Through (root cs before rest : List Char) : Prop where
  text : cs = before ++ (root ++ rest)
  start : ∀ c ∈ before.getLast?, c = '/'

structure FirstThrough (root cs before rest : List Char) : Prop extends Through root cs before rest where
  leftmost : ∀ before' rest', Through root cs before' rest' → before.length ≤ before'.length

lemma Through.length_eq (h : Through root cs before rest) :
    cs.length = before.length + (root.length + rest.length) := by
  rw [h.text, List.length_append, List.length_append]

lemma FirstThrough.unique (h : FirstThrough root cs before rest) (h' : FirstThrough root cs before' rest') :
    rest = rest' := by
  have hlength : before.length = before'.length :=
    Nat.le_antisymm (h.leftmost _ _ h'.toThrough) (h'.leftmost _ _ h.toThrough)
  obtain ⟨-, he⟩ := List.append_inj (h.text.symm.trans h'.text) hlength
  exact List.append_cancel_left he

/-- The first place is known by what follows it, since less follows the others. -/
lemma FirstThrough.transfer (h : FirstThrough root cs before rest)
    (hc : ∀ rest, (∃ before, Through root cs before rest) ↔ ∃ before, Through root cs' before rest) :
    ∃ before', FirstThrough root cs' before' rest := by
  obtain ⟨before', h'⟩ := (hc rest).mp ⟨before, h.toThrough⟩
  refine ⟨before', h', fun other rest' ho => ?_⟩
  obtain ⟨same, hs⟩ := (hc rest').mpr ⟨other, ho⟩
  have hleft := h.leftmost same rest' hs
  have hlength := h.length_eq.symm.trans hs.length_eq
  have hlength' := h'.length_eq.symm.trans ho.length_eq
  omega

lemma all_slash_iff (found : Option Char) : found.all (· == '/') = true ↔ ∀ c ∈ found, c = '/' := by
  cases found <;> simp

lemma exists_through_of_mem (h : o ∈ Text.occurrences root cs) (hs : o.before.all (· == '/') = true) :
    ∃ before, Through root cs before o.rest := by
  obtain ⟨before, he, hb⟩ := Text.exists_of_mem_occurrencesFrom h
  rw [Option.or_none] at hb
  exact ⟨before, he, (all_slash_iff _).mp (hb ▸ hs)⟩

/-- A text that is found wherever it stands, since it does not overlap with itself, and that has no backslash. -/
structure IsRoot (root : List Char) : Prop where
  ne_nil : root ≠ []
  unbordered : Text.Unbordered root
  backslash : '\\' ∉ root

lemma isRoot_of_mem {roots : List String} {root : String}
    (h : roots = Java.sourceRoots ∨ roots = Kotlin.sourceRoots) (hm : root ∈ roots) : IsRoot root.toList := by
  have hall : ∀ root ∈ Java.sourceRoots ++ Kotlin.sourceRoots, root.toList ≠ [] ∧ '\\' ∉ root.toList ∧
      ∀ n < root.toList.length, 0 < n → root.toList.take n ≠ root.toList.drop (root.toList.length - n) := by
    decide +kernel
  have hroot : root ∈ Java.sourceRoots ++ Kotlin.sourceRoots := by
    rcases h with rfl | rfl
    · exact List.mem_append_left _ hm
    · exact List.mem_append_right _ hm
  obtain ⟨hn, hb, hu⟩ := hall root hroot
  exact ⟨hn, Text.unbordered_of_take_ne_drop hu, hb⟩

namespace IsRoot

variable (hr : IsRoot root)

include hr

lemma mem_occurrences (h : Through root cs before rest) : ⟨before.getLast?, rest⟩ ∈ Text.occurrences root cs := by
  have hm : ⟨before.getLast?.or none, rest⟩ ∈ Text.occurrencesFrom root 0 none (before ++ (root ++ rest)) :=
    Text.mem_occurrencesFrom hr.ne_nil hr.unbordered rest (Nat.zero_le _)
  rwa [Option.or_none, ← h.text] at hm

lemma exists_firstThrough (h : below? root cs = some rest) : ∃ before, FirstThrough root cs before rest := by
  obtain ⟨o, ho, rfl⟩ := Option.map_eq_some_iff.mp h
  obtain ⟨hs, earlier, later, he, hearlier⟩ := List.find?_eq_some_iff_append.mp ho
  obtain ⟨before, hb⟩ := exists_through_of_mem (List.mem_of_find?_eq_some ho) hs
  refine ⟨before, hb, fun before' rest' h' => ?_⟩
  -- Any other place is among the occurrences too, behind the one that was taken.
  have hle : rest'.length ≤ o.rest.length := by
    have hm := hr.mem_occurrences h'
    have hsorted := Text.pairwise_occurrencesFrom root 0 none cs
    rw [← Text.occurrences, he] at hsorted
    rw [he] at hm
    rcases List.mem_append.mp hm with hm | hm
    · have hskipped := hearlier _ hm
      rw [(all_slash_iff _).mpr h'.start] at hskipped
      cases hskipped
    · rcases List.mem_cons.mp hm with rfl | hm
      · exact Nat.le_refl _
      · exact Nat.le_of_lt (List.rel_of_pairwise_cons (List.pairwise_append.mp hsorted).2.1 hm)
  have hlength := hb.length_eq
  have hlength' := h'.length_eq
  omega

lemma isSome_below? (h : Through root cs before rest) : (below? root cs).isSome = true := by
  rw [below?, Option.isSome_map, List.find?_isSome]
  exact ⟨_, hr.mem_occurrences h, (all_slash_iff _).mpr h.start⟩

lemma below?_eq_some_iff : below? root cs = some rest ↔ ∃ before, FirstThrough root cs before rest := by
  refine ⟨hr.exists_firstThrough, ?_⟩
  rintro ⟨before, h⟩
  obtain ⟨rest', hb⟩ := Option.isSome_iff_exists.mp (hr.isSome_below? h.toThrough)
  obtain ⟨before', h'⟩ := hr.exists_firstThrough hb
  rw [hb, h.unique h']

lemma below?_eq_none_iff : below? root cs = none ↔ ∀ before rest, ¬ Through root cs before rest := by
  constructor
  · intro h before rest ht
    have hs := hr.isSome_below? ht
    rw [h] at hs
    cases hs
  · intro h
    refine Option.eq_none_iff_forall_ne_some.mpr fun rest hb => ?_
    obtain ⟨before, ht⟩ := hr.exists_firstThrough hb
    exact h before rest ht.toThrough

lemma below?_congr (hc : ∀ rest, (∃ before, Through root cs before rest) ↔ ∃ before, Through root cs' before rest) :
    below? root cs = below? root cs' := by
  ext rest
  rw [hr.below?_eq_some_iff, hr.below?_eq_some_iff]
  constructor
  · rintro ⟨before, h⟩
    exact h.transfer hc
  · rintro ⟨before, h⟩
    exact h.transfer fun rest => (hc rest).symm

end IsRoot

def toSlash (c : Char) : Char := if c == '\\' then '/' else c

def slashed (p : Path) : List Char := p.text.toList.map toSlash

lemma map_toSlash_eq_self (h : '\\' ∉ cs) : cs.map toSlash = cs := by
  have hc : ∀ c ∈ cs, toSlash c = id c := by
    intro c hc
    refine if_neg fun hb => h ?_
    rwa [← beq_iff_eq.mp hb]
  rw [List.map_congr_left hc, List.map_id]

lemma firstThrough_slashed {front tail : List Char} (htext : p.text.toList = front ++ (root ++ tail))
    (hb : '\\' ∉ root) (ht : '\\' ∉ tail) (hfront : ∀ c ∈ front.getLast?, toSlash c = '/')
    (hleft : ∀ before rest, Through root (slashed p) before rest → front.length ≤ before.length) :
    FirstThrough root (slashed p) (front.map toSlash) tail := by
  refine ⟨⟨?_, ?_⟩, fun before rest h => ?_⟩
  · rw [slashed, htext, List.map_append, List.map_append, map_toSlash_eq_self hb, map_toSlash_eq_self ht]
  · rw [List.getLast?_map]
    rintro c hc
    obtain ⟨d, hd, rfl⟩ := Option.map_eq_some_iff.mp hc
    exact hfront d hd
  · rw [List.length_map]
    exact hleft before rest h

lemma infer_eq (roots : List String) (p : Path) :
    infer roots p =
      String.ofList (((roots.findSome? fun root => below? root.toList (slashed p)).map ofDirectories).getD []) :=
  rfl

lemma infer_eq_of_below? {earlier later : List String} {root : String}
    (he : ∀ other ∈ earlier, below? other.toList (slashed p) = none) (hb : below? root.toList (slashed p) = some rest) :
    infer (earlier ++ root :: later) p = String.ofList (ofDirectories rest) := by
  rw [infer_eq, List.findSome?_append, List.findSome?_eq_none_iff.mpr he, List.findSome?_cons, hb]
  rfl

lemma ofDirectories_join {directories : List (List Char)} {file : List Char}
    (h : ∀ name ∈ directories ++ [file], '/' ∉ name) :
    ofDirectories (['/'].intercalate (directories ++ [file])) = ['.'].intercalate directories := by
  rw [ofDirectories, List.splitOn_intercalate '/' h (by simp), List.dropLast_concat]

lemma backslash_not_mem_join {names : List (List Char)} (h : ∀ name ∈ names, '/' ∉ name ∧ '\\' ∉ name) :
    '\\' ∉ ['/'].intercalate names := by
  intro hm
  rcases Text.mem_of_mem_intercalate hm with hm | ⟨name, hn, hm⟩
  · exact absurd (List.mem_singleton.mp hm) (by decide)
  · exact (h name hn).2 hm

/-- The package of a file in directories below a source root is made of these directories, if the path does not go
through the root any earlier or through one of the roots listed before it. Two paths have the same package if the same
follows the roots that they go through, whatever else the paths hold, and a path that goes through no root has none.
A backslash separates segments as a slash does. -/
theorem package_is_made_of_directories_below_root (roots : List String)
    (hroots : roots = Java.sourceRoots ∨ roots = Kotlin.sourceRoots) :
    (∀ (p : Path) (earlier : List String) (root : String) (later : List String) (front : List Char)
        (directories : List (List Char)) (file : List Char),
      roots = earlier ++ root :: later →
      p.text.toList = front ++ (root.toList ++ ['/'].intercalate (directories ++ [file])) →
      (∀ c ∈ front.getLast?, toSlash c = '/') →
      (∀ name ∈ directories ++ [file], '/' ∉ name ∧ '\\' ∉ name) →
      (∀ other ∈ earlier, ∀ before rest, ¬ Through other.toList (slashed p) before rest) →
      (∀ before rest, Through root.toList (slashed p) before rest → front.length ≤ before.length) →
      infer roots p = String.ofList (['.'].intercalate directories)) ∧
    (∀ p q : Path,
      (∀ root ∈ roots, ∀ rest, (∃ before, Through root.toList (slashed p) before rest) ↔
        ∃ before, Through root.toList (slashed q) before rest) →
      infer roots p = infer roots q) ∧
    ∀ p : Path, (∀ root ∈ roots, ∀ before rest, ¬ Through root.toList (slashed p) before rest) →
      infer roots p = "" := by
  refine ⟨?_, fun p q h => ?_, fun p h => ?_⟩
  · intro p earlier root later front directories file hlist htext hfront hnames hearlier hleft
    have hroot : IsRoot root.toList := isRoot_of_mem hroots (by simp [hlist])
    have hfirst := firstThrough_slashed htext hroot.backslash (backslash_not_mem_join hnames) hfront hleft
    have hbelow := hroot.below?_eq_some_iff.mpr ⟨_, hfirst⟩
    have hnone : ∀ other ∈ earlier, below? other.toList (slashed p) = none := fun other ho =>
      (isRoot_of_mem hroots (by simp [hlist, ho])).below?_eq_none_iff.mpr (hearlier other ho)
    rw [hlist, infer_eq_of_below? hnone hbelow, ofDirectories_join fun name hm => (hnames name hm).1]
  · rw [infer_eq, infer_eq, findSome?_congr fun root hm => (isRoot_of_mem hroots hm).below?_congr (h root hm)]
  · have hnone : roots.findSome? (fun root => below? root.toList (slashed p)) = none :=
      List.findSome?_eq_none_iff.mpr fun root hm => (isRoot_of_mem hroots hm).below?_eq_none_iff.mpr (h root hm)
    rw [infer_eq, hnone]
    rfl

/-- A directory `mysrc` does not count, although its name ends like a root. -/
theorem package_of_tool_is_not_below_mysrc :
    infer Java.sourceRoots ⟨"tools/mysrc/src/org/acme/Tool.java"⟩ = "org.acme" ∧
      infer Java.sourceRoots ⟨"mysrc/Tool.java"⟩ = infer Java.sourceRoots ⟨"my/Tool.java"⟩ ∧
      infer Java.sourceRoots ⟨"mysrc/Tool.java"⟩ = "" := by
  have hroot {root : String} (hm : root ∈ Java.sourceRoots) : IsRoot root.toList := isRoot_of_mem (.inl rfl) hm
  have hmysrc : ∀ root ∈ Java.sourceRoots, below? root.toList (slashed ⟨"mysrc/Tool.java"⟩) = none := by decide +kernel
  have hmy : ∀ root ∈ Java.sourceRoots, below? root.toList (slashed ⟨"my/Tool.java"⟩) = none := by decide +kernel
  have hearlier : ∀ root ∈ ["src/main/java/", "src/test/java/"], root ∈ Java.sourceRoots ∧
      below? root.toList (slashed ⟨"tools/mysrc/src/org/acme/Tool.java"⟩) = none := by decide +kernel
  have hbelow : below? "src/".toList (slashed ⟨"tools/mysrc/src/org/acme/Tool.java"⟩) =
      some "org/acme/Tool.java".toList := by decide +kernel
  have hlength : (slashed ⟨"tools/mysrc/src/org/acme/Tool.java"⟩).length =
      "tools/mysrc/".toList.length + ("src/".toList.length + "org/acme/Tool.java".toList.length) := by decide +kernel
  have hslash : ∀ c ∈ "tools/mysrc/".toList.getLast?, toSlash c = '/' := by
    intro c hc
    obtain rfl : '/' = c := Option.some.inj hc
    rfl
  obtain ⟨hdirectories, hsame, hnone⟩ := package_is_made_of_directories_below_root Java.sourceRoots (.inl rfl)
  refine ⟨?_, hsame _ _ fun root hm rest => ?_,
    hnone _ fun root hm => (hroot hm).below?_eq_none_iff.mp (hmysrc root hm)⟩
  · refine hdirectories ⟨"tools/mysrc/src/org/acme/Tool.java"⟩ ["src/main/java/", "src/test/java/"] "src/" ["java/"]
      "tools/mysrc/".toList ["org".toList, "acme".toList] "Tool.java".toList rfl (by decide +kernel) hslash
      (by decide +kernel) (fun root hm => ?_) fun before rest h => ?_
    · obtain ⟨hroots, hb⟩ := hearlier root hm
      exact (hroot hroots).below?_eq_none_iff.mp hb
    · obtain ⟨first, hf⟩ := (hroot (by decide)).exists_firstThrough hbelow
      have hle := hf.leftmost before rest h
      have hfirst := hf.length_eq
      omega
  · refine iff_of_false ?_ ?_
    · rintro ⟨before, h⟩
      exact (hroot hm).below?_eq_none_iff.mp (hmysrc root hm) before rest h
    · rintro ⟨before, h⟩
      exact (hroot hm).below?_eq_none_iff.mp (hmy root hm) before rest h

end SourceAtlas.Package
