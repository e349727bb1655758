import Mathlib.Data.List.Nodup
import Mathlib.Logic.Function.Basic
import SourceAtlas.Extract.Merge
import SourceAtlas.Proofs.List.Search
import SourceAtlas.Proofs.Merge.Distinct

namespace SourceAtlas.ObjCpp

variable {all merged ts : List Symbol} {s t : Symbol} {i : ℕ}

def keys (symbols : List Symbol) : List (SymbolKind × String) := symbols.map Symbol.key

def blockKinds : List SymbolKind := [.classType, .interface, .implementation, .protocol, .category]

lemma laterWins_iff (kind : SymbolKind) : laterWins kind = true ↔ kind ∈ blockKinds := by
  cases kind <;> decide

lemma mem_keys {key : SymbolKind × String} : key ∈ keys ts ↔ ∃ t ∈ ts, t.key = key := List.mem_map

lemma keys_append (first second : List Symbol) : keys (first ++ second) = keys first ++ keys second :=
  List.map_append

lemma keys_insert (s : Symbol) (ts : List Symbol) :
    keys (insert s ts) = if s.key ∈ keys ts then keys ts else keys ts ++ [s.key] := by
  induction ts with
  | nil => rfl
  | cons t ts ih =>
    rw [insert]
    by_cases hk : t.key = s.key
    · rw [if_pos hk, if_pos (mem_keys.mpr ⟨t, List.mem_cons_self, hk⟩)]
      split
      · exact congrArg (· :: keys ts) hk.symm
      · rfl
    · have hmem : s.key ∈ keys (t :: ts) ↔ s.key ∈ keys ts := by simp [keys, Ne.symm hk]
      rw [if_neg hk, show keys (t :: insert s ts) = t.key :: keys (insert s ts) from rfl, ih]
      by_cases hs : s.key ∈ keys ts
      · rw [if_pos hs, if_pos (hmem.mpr hs)]
        rfl
      · rw [if_neg hs, if_neg (mt hmem.mp hs)]
        rfl

lemma insert_cases (hd : (keys ts).Nodup) (h : t ∈ insert s ts) :
    (t = s ∧ (laterWins s.kind = true ∨ s.key ∉ keys ts)) ∨
      (t ∈ ts ∧ (t.key = s.key → laterWins s.kind = false)) := by
  induction ts with
  | nil => exact Or.inl ⟨List.mem_singleton.mp h, Or.inr List.not_mem_nil⟩
  | cons u ts ih =>
    obtain ⟨hu, hts⟩ := List.nodup_cons.mp hd
    rw [insert] at h
    by_cases hk : u.key = s.key
    · rw [if_pos hk] at h
      have hother : t ∈ ts → t.key ≠ s.key := fun ht he => hu (mem_keys.mpr ⟨t, ht, he.trans hk.symm⟩)
      by_cases hl : laterWins s.kind = true
      · rw [if_pos hl] at h
        rcases List.mem_cons.mp h with rfl | ht
        · exact Or.inl ⟨rfl, Or.inl hl⟩
        · exact Or.inr ⟨List.mem_cons_of_mem _ ht, fun he => absurd he (hother ht)⟩
      · rw [if_neg hl] at h
        exact Or.inr ⟨h, fun _ => Bool.not_eq_true _ ▸ hl⟩
    · rw [if_neg hk] at h
      rcases List.mem_cons.mp h with rfl | ht
      · exact Or.inr ⟨List.mem_cons_self, fun he => absurd he hk⟩
      · rcases ih hts ht with ⟨rfl, hnew⟩ | ⟨ht, hold⟩
        · refine Or.inl ⟨rfl, hnew.imp_right fun hn => ?_⟩
          exact List.not_mem_cons_of_ne_of_not_mem (Ne.symm hk) hn
        · exact Or.inr ⟨List.mem_cons_of_mem _ ht, hold⟩

structure OneForEachKey (all merged : List Symbol) : Prop where
  same_keys : ∀ key, key ∈ keys merged ↔ key ∈ keys all
  ordered : (keys merged).Pairwise fun a b => (keys all).idxOf a < (keys all).idxOf b
  last : ∀ s ∈ merged, s.kind ∈ blockKinds → LastWith (·.key = s.key) all s
  first : ∀ s ∈ merged, s.kind ∉ blockKinds → FirstWith (·.key = s.key) all s

lemma OneForEachKey.nodup (h : OneForEachKey all merged) : (keys merged).Nodup :=
  h.ordered.imp fun hlt he => absurd (he ▸ hlt) (Nat.lt_irrefl _)

lemma keys_insert_ordered (h : OneForEachKey all merged) (s : Symbol) :
    (keys (insert s merged)).Pairwise fun a b =>
      (keys (all ++ [s])).idxOf a < (keys (all ++ [s])).idxOf b := by
  have hold : (keys merged).Pairwise fun a b =>
      (keys (all ++ [s])).idxOf a < (keys (all ++ [s])).idxOf b := by
    refine h.ordered.imp_of_mem fun ha hb hlt => ?_
    rwa [keys_append, List.idxOf_append_of_mem ((h.same_keys _).mp ha),
      List.idxOf_append_of_mem ((h.same_keys _).mp hb)]
  rw [keys_insert]
  split
  · exact hold
  · rename_i hs
    refine List.pairwise_append.mpr ⟨hold, List.pairwise_singleton _ _, fun a ha b hb => ?_⟩
    obtain rfl := List.mem_singleton.mp hb
    have ha := (h.same_keys a).mp ha
    rw [keys_append, List.idxOf_append_of_mem ha, List.idxOf_append_of_notMem (mt (h.same_keys _).mpr hs)]
    exact Nat.lt_add_right _ (List.idxOf_lt_length_of_mem ha)

lemma OneForEachKey.insert (h : OneForEachKey all merged) (s : Symbol) :
    OneForEachKey (all ++ [s]) (insert s merged) where
  same_keys key := by
    rw [keys_insert, keys_append, List.mem_append, ← h.same_keys]
    split
    · rename_i hs
      exact ⟨Or.inl, fun hk => hk.elim id fun hk => List.mem_singleton.mp hk ▸ hs⟩
    · exact List.mem_append
  ordered := keys_insert_ordered h s
  last t ht hb := by
    rcases insert_cases h.nodup ht with ⟨rfl, _⟩ | ⟨ht, hold⟩
    · exact ⟨all, [], rfl, rfl, fun u hu => absurd hu List.not_mem_nil⟩
    · refine (h.last t ht hb).concat fun he => ?_
      have hkind : s.kind = t.kind := congrArg Prod.fst he
      have hw : laterWins s.kind = true := (laterWins_iff _).mpr (hkind ▸ hb)
      rw [hold he.symm] at hw
      cases hw
  first t ht hb := by
    rcases insert_cases h.nodup ht with ⟨rfl, hnew⟩ | ⟨ht, _⟩
    · have hn := hnew.resolve_left (mt (laterWins_iff _).mp hb)
      exact ⟨all, [], rfl, rfl, fun u hu he => hn ((h.same_keys _).mpr (mem_keys.mpr ⟨u, hu, he⟩))⟩
    · exact (h.first t ht hb).concat s

lemma oneForEachKey_mergeSymbols (all : List Symbol) : OneForEachKey all (mergeSymbols all) := by
  induction all using List.reverseRecOn with
  | nil => exact ⟨fun _ => Iff.rfl, List.Pairwise.nil, by simp [mergeSymbols], by simp [mergeSymbols]⟩
  | append_singleton all s ih =>
    rw [mergeSymbols, List.foldl_append]
    exact ih.insert s

lemma mem_of_mem_mergeSymbols (h : s ∈ mergeSymbols all) : s ∈ all := by
  have hm := oneForEachKey_mergeSymbols all
  by_cases hb : s.kind ∈ blockKinds
  · exact (hm.last s h hb).mem
  · exact (hm.first s h hb).mem

structure Table where
  index : SymbolKind × String → Option ℕ
  symbols : List Symbol

namespace Table

variable {table : Table}

def empty : Table := ⟨fun _ => none, []⟩

/-- Adds a symbol, with the table telling which one it replaces. There is no result if the table points past
the end of the symbols. -/
def add? (table : Table) (s : Symbol) : Option Table :=
  match table.index s.key with
  | none => some ⟨Function.update table.index s.key (some table.symbols.length), table.symbols ++ [s]⟩
  | some i =>
    if laterWins s.kind then
      if i < table.symbols.length then some { table with symbols := table.symbols.set i s } else none
    else some table

def addAll? (table : Table) (symbols : List Symbol) : Option Table := symbols.foldlM add? table

def Exact (table : Table) : Prop :=
  ∀ key i, table.index key = some i ↔ (keys table.symbols)[i]? = some key

lemma exact_empty : Exact empty := by simp [Exact, empty, keys]

end Table

lemma insert_of_notMem (h : s.key ∉ keys ts) : insert s ts = ts ++ [s] := by
  induction ts with
  | nil => rfl
  | cons t ts ih =>
    obtain ⟨hk, hn⟩ := List.ne_and_not_mem_of_not_mem_cons h
    rw [insert, if_neg (Ne.symm hk), ih hn]
    rfl

lemma insert_of_getElem? (h : (keys ts)[i]? = some s.key) (hf : ∀ j < i, (keys ts)[j]? ≠ some s.key) :
    insert s ts = if laterWins s.kind then ts.set i s else ts := by
  induction ts generalizing i with
  | nil => simp [keys] at h
  | cons t ts ih =>
    rw [insert]
    cases i with
    | zero =>
      rw [if_pos (Option.some.inj h)]
      split <;> rfl
    | succ i =>
      rw [if_neg fun hk => hf 0 (Nat.succ_pos _) (congrArg some hk), ih h fun j hj => hf (j + 1) (by omega)]
      split <;> rfl

lemma getElem?_keys_concat {key : SymbolKind × String} :
    (keys (ts ++ [s]))[i]? = some key ↔ (keys ts)[i]? = some key ∨ (i = ts.length ∧ s.key = key) := by
  have hlen : (keys ts).length = ts.length := List.length_map _
  rw [keys_append, show keys [s] = [s.key] from rfl]
  rcases Nat.lt_trichotomy i ts.length with hi | rfl | hi
  · rw [List.getElem?_append_left (hlen ▸ hi)]
    simp [Nat.ne_of_lt hi]
  · rw [← hlen, List.getElem?_concat_length, List.getElem?_eq_none (Nat.le_refl _)]
    simp
  · rw [List.getElem?_eq_none (by simp [keys]; omega), List.getElem?_eq_none (by omega)]
    simp [Nat.ne_of_gt hi]

lemma keys_set (h : (keys ts)[i]? = some s.key) : keys (ts.set i s) = keys ts := by
  obtain ⟨hi, hk⟩ := List.getElem?_eq_some_iff.mp h
  rw [keys, List.map_set, ← hk]
  exact List.set_getElem_self hi

namespace Table

variable {table : Table}

lemma Exact.add? (h : table.Exact) (s : Symbol) :
    ∃ next, table.add? s = some next ∧ next.Exact ∧ next.symbols = insert s table.symbols := by
  unfold Table.add?
  split
  · rename_i hnone
    have hn : s.key ∉ keys table.symbols := fun hk => by
      obtain ⟨i, hi⟩ := List.mem_iff_getElem?.mp hk
      rw [(h s.key i).mpr hi] at hnone
      cases hnone
    refine ⟨_, rfl, fun key i => ?_, (insert_of_notMem hn).symm⟩
    dsimp only
    rw [getElem?_keys_concat, ← h key i]
    by_cases hk : key = s.key
    · subst hk
      rw [Function.update_self, hnone]
      simp [eq_comm]
    · rw [Function.update_of_ne hk]
      simp [Ne.symm hk]
  · rename_i i hi
    have hk := (h s.key i).mp hi
    have hlt : i < table.symbols.length := by
      obtain ⟨hlt, -⟩ := List.getElem?_eq_some_iff.mp hk
      simpa [keys] using hlt
    have hf : ∀ j < i, (keys table.symbols)[j]? ≠ some s.key := fun j hj hjk => by
      rw [(h s.key j).mpr hjk] at hi
      exact absurd (Option.some.inj hi) (Nat.ne_of_lt hj)
    have hins := insert_of_getElem? hk hf
    by_cases hl : laterWins s.kind = true
    · rw [if_pos hl, if_pos hlt]
      refine ⟨_, rfl, fun key j => ?_, by rw [hins, if_pos hl]⟩
      rw [keys_set hk]
      exact h key j
    · rw [if_neg hl]
      exact ⟨_, rfl, h, by rw [hins, if_neg hl]⟩

lemma Exact.addAll? (h : table.Exact) (symbols : List Symbol) :
    ∃ next, table.addAll? symbols = some next ∧ next.Exact ∧
      next.symbols = symbols.foldl (fun merged s => insert s merged) table.symbols := by
  induction symbols generalizing table with
  | nil => exact ⟨table, rfl, h, rfl⟩
  | cons s symbols ih =>
    obtain ⟨next, hs, hn, he⟩ := h.add? s
    obtain ⟨last, hl, hx, hy⟩ := ih hn
    refine ⟨last, ?_, hx, ?_⟩
    · rw [Table.addAll?, List.foldlM_cons, hs]
      exact hl
    · rw [hy, he, List.foldl_cons]

end Table

/-- The merged outline has one symbol for each key of the two readings, in the order of the first ones: the last
of its key for a block, the first for anything else. Of its edges the first with each key stay. The table
points to a symbol whenever one is replaced. -/
theorem merge_keeps_one_symbol_for_each_key (cpp objc : Outline) :
    let all := cpp.symbols ++ objc.symbols
    let merged := merge cpp objc
    (keys merged.symbols).Nodup ∧ OneForEachKey all merged.symbols ∧
      merged.dependencies = firstOccurrences Dependency.key (cpp.dependencies ++ objc.dependencies) ∧
      merged.path = cpp.path ∧ merged.content = cpp.content ∧ merged.language = .objCpp ∧
      ∃ table, Table.empty.addAll? all = some table ∧ table.symbols = merged.symbols := by
  intro all merged
  have hone := oneForEachKey_mergeSymbols all
  obtain ⟨table, ht, -, hs⟩ := Table.exact_empty.addAll? all
  exact ⟨hone.nodup, hone, distinctBy_eq_firstOccurrences _, rfl, rfl, rfl, table, ht, hs⟩

end SourceAtlas.ObjCpp
