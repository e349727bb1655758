import Mathlib.Data.List.Basic
import SourceAtlas.Proofs.Calls.Grounded
import SourceAtlas.Proofs.Spans.Located
import SourceAtlas.Proofs.Tree.Addresses

namespace SourceAtlas

section Divide

variable {α β : Type} {items : List α} {describes : α → Symbol → Prop} {lists : List (List Symbol)}

/-- Lists of symbols that divide items among them: each item has its share in one of the lists and gives one symbol
there, and each list has the symbols of its share, in order, and no others. -/
def Divide (items : List α) (describes : α → Symbol → Prop) (lists : List (List Symbol)) : Prop :=
  ∃ (share : α → ℕ) (symbol : α → Symbol),
    (∀ x ∈ items, share x < lists.length ∧ describes x (symbol x)) ∧
      lists = (List.range lists.length).map fun i => (items.filter (share · == i)).map symbol

lemma countP_lt_succ (share : α → ℕ) (n : ℕ) (items : List α) :
    items.countP (share · < n + 1) = items.countP (share · < n) + items.countP (share · == n) := by
  induction items with
  | nil => rfl
  | cons x items ih =>
    simp only [List.countP_cons, ih, decide_eq_true_eq, beq_iff_eq]
    split_ifs <;> omega

lemma length_shares (share : α → ℕ) (symbol : α → Symbol) (n : ℕ) (items : List α) :
    ((List.range n).flatMap fun i => (items.filter (share · == i)).map symbol).length =
      items.countP (share · < n) := by
  induction n with
  | zero => simp
  | succ n ih =>
    rw [List.range_succ, List.flatMap_append, List.length_append, ih, List.flatMap_singleton, List.length_map,
      ← List.countP_eq_length_filter, countP_lt_succ]

lemma Divide.length_flatten (h : Divide items describes lists) : lists.flatten.length = items.length := by
  obtain ⟨share, symbol, hx, hl⟩ := h
  rw [hl, ← List.flatMap_def, length_shares]
  exact List.countP_eq_length.mpr fun x hm => decide_eq_true (hx x hm).1

lemma Divide.of_filterMap {known : β → Option α} {sources : List β} (hk : ∀ y ∈ sources, (known y).isSome = true)
    (h : Divide (sources.filterMap known) describes lists) :
    Divide sources (fun y s => ∃ x, known y = some x ∧ describes x s) lists := by
  obtain ⟨share, symbol, hx, hl⟩ := h
  refine ⟨fun y => (known y).elim 0 share, fun y => (known y).elim ⟨"", .namedType, "", {}, "", []⟩ symbol, ?_, ?_⟩
  · intro y hy
    obtain ⟨x, hkx⟩ := Option.isSome_iff_exists.mp (hk y hy)
    obtain ⟨hlt, hd⟩ := hx x (List.mem_filterMap.mpr ⟨y, hy, hkx⟩)
    simp only [hkx, Option.elim_some]
    exact ⟨hlt, x, rfl, hd⟩
  · conv_lhs => rw [hl]
    refine List.map_congr_left fun i _ => ?_
    clear hx hl
    induction sources with
    | nil => rfl
    | cons y sources ih =>
      obtain ⟨hy, hrest⟩ := List.forall_mem_cons.mp hk
      obtain ⟨x, hkx⟩ := Option.isSome_iff_exists.mp hy
      rw [List.filterMap_cons_some hkx, List.filter_cons, List.filter_cons]
      simp only [hkx, Option.elim_some]
      split
      · rw [List.map_cons, List.map_cons, ih hrest, hkx, Option.elim_some]
      · exact ih hrest

lemma Divide.of_pairs {known : β → Option α} {sources : List β} {describes : β → Symbol → Prop}
    (h : Divide (sources.filterMap fun y => (known y).map (y, ·)) (fun item => describes item.1) lists) :
    Divide (sources.filter fun y => (known y).isSome) describes lists := by
  have hsame : (sources.filter fun y => (known y).isSome).filterMap (fun y => (known y).map (y, ·)) =
      sources.filterMap fun y => (known y).map (y, ·) := by
    rw [List.filterMap_filter]
    refine List.filterMap_congr fun y _ => ?_
    cases known y <;> rfl
  rw [← hsame] at h
  obtain ⟨share, symbol, hx, hl⟩ := h.of_filterMap fun y hy => by
    rw [Option.isSome_map]
    exact (List.mem_filter.mp hy).2
  refine ⟨share, symbol, fun y hy => ?_, hl⟩
  obtain ⟨hlt, item, hitem, hd⟩ := hx y hy
  obtain ⟨x, -, rfl⟩ := Option.map_eq_some_iff.mp hitem
  exact ⟨hlt, hd⟩

lemma filter_pairs (known : β → Option α) (keep : β → Bool) (sources : List β) :
    (sources.filterMap fun y => (known y).map (y, ·)).filter (fun item => keep item.1) =
      (sources.filter keep).filterMap fun y => (known y).map (y, ·) := by
  rw [List.filter_filterMap, List.filterMap_filter]
  refine List.filterMap_congr fun y _ => ?_
  cases known y <;> cases hy : keep y <;> simp [Option.filter, hy]

lemma map_filter_congr {p q : α → Bool} {f g : α → Symbol} (hp : ∀ x ∈ items, p x = q x)
    (hf : ∀ x, p x = true → f x = g x) : (items.filter p).map f = (items.filter q).map g := by
  rw [← List.filter_congr hp]
  exact List.map_congr_left fun x hx => hf x (List.mem_filter.mp hx).2

end Divide

structure Place.Enumerates (root : Place) (P : Place → Prop) (items : List Place) : Prop where
  distinct : items.Pairwise fun a b => a.address ≠ b.address
  complete : ∀ p, p ∈ items ↔ (root.Reaches p ∧ p.node.named = true) ∧ P p

lemma Place.enumerates_namedDescendants (root : Place) (kinds : List String) (keep : Place → Bool) :
    root.Enumerates (fun p => p.isAny kinds = true ∧ keep p = true) ((root.namedDescendants kinds).filter keep) where
  distinct := (root.pairwise_address_namedDescendants kinds).filter keep
  complete p := by
    rw [List.mem_filter, mem_namedDescendants]
    tauto

lemma Place.Enumerates.congr {root : Place} {P Q : Place → Prop} {items : List Place} (h : root.Enumerates P items)
    (hPQ : ∀ p, P p ↔ Q p) : root.Enumerates Q items where
  distinct := h.distinct
  complete p := by rw [h.complete, hPQ]

namespace Findings

variable {f g : Findings} {kinds : List SymbolKind}

def ofKinds (f : Findings) (kinds : List SymbolKind) : List Symbol := f.symbols.filter (kinds.contains ·.kind)

lemma ofKinds_append (f g : Findings) (kinds : List SymbolKind) :
    (f ++ g).ofKinds kinds = f.ofKinds kinds ++ g.ofKinds kinds := List.filter_append ..

lemma ofKinds_eq_symbols (h : f.Emits (·.kind ∈ kinds)) : f.ofKinds kinds = f.symbols :=
  List.filter_eq_self.mpr fun s hs => List.contains_iff_mem.mpr (h s hs)

lemma ofKinds_eq_nil (h : f.Emits (·.kind ∉ kinds)) : f.ofKinds kinds = [] :=
  List.filter_eq_nil_iff.mpr fun s hs hc => h s hs (List.contains_iff_mem.mp hc)

lemma firstNamed?_eq_head? (f : Findings) (kind : SymbolKind) :
    f.firstNamed? kind = (f.ofKinds [kind]).head?.map (·.name) := by
  rw [firstNamed?, ofKinds, List.head?_filter]
  congr 2
  funext s
  rw [List.contains_cons, List.contains_nil, Bool.or_false]

end Findings

namespace Pass

variable {v : View} {passes : List Pass} {kinds : List SymbolKind} {table : List (Pass × List SymbolKind)}

lemma ofKinds_after (h : ∀ pass ∈ passes, Emits (·.kind ∉ kinds) v pass) (found : Findings) :
    (after passes v found).ofKinds kinds = found.ofKinds kinds := by
  induction passes generalizing found with
  | nil => rfl
  | cons pass passes ih =>
    obtain ⟨hp, hps⟩ := List.forall_mem_cons.mp h
    have hstep : (found ++ pass v found).ofKinds kinds = found.ofKinds kinds := by
      rw [Findings.ofKinds_append, Findings.ofKinds_eq_nil (hp found), List.append_nil]
    exact (ih hps _).trans hstep

structure SortedByKind (v : View) (table : List (Pass × List SymbolKind)) : Prop where
  emits : ∀ entry ∈ table, Emits (·.kind ∈ entry.2) v entry.1
  disjoint : (table.map Prod.snd).Pairwise List.Disjoint

lemma SortedByKind.take (h : SortedByKind v table) (n : ℕ) : SortedByKind v (table.take n) where
  emits entry he := h.emits entry (List.mem_of_mem_take he)
  disjoint := h.disjoint.sublist ((List.take_sublist n table).map Prod.snd)

lemma SortedByKind.emits_others {before later : List (Pass × List SymbolKind)} {pass : Pass}
    (h : SortedByKind v (before ++ (pass, kinds) :: later)) :
    ∀ other ∈ (before ++ later).map Prod.fst, Emits (·.kind ∉ kinds) v other := by
  refine List.forall_mem_map.mpr fun entry he found s hs hk => ?_
  have hdisjoint := h.disjoint
  rw [List.map_append, List.map_cons, List.pairwise_append, List.pairwise_cons] at hdisjoint
  obtain ⟨-, ⟨hlater, -⟩, hbefore⟩ := hdisjoint
  rcases List.mem_append.mp he with he | he
  · have hown := h.emits entry (List.mem_append_left _ he) found s hs
    exact hbefore entry.2 (List.mem_map_of_mem he) kinds List.mem_cons_self hown hk
  · have hown := h.emits entry (List.mem_append_right _ (List.mem_cons_of_mem _ he)) found s hs
    exact hlater entry.2 (List.mem_map_of_mem he) hk hown

lemma SortedByKind.ofKinds_runAll (h : SortedByKind v table) (i : ℕ) {pass : Pass}
    (hi : table[i]? = some (pass, kinds)) :
    (runAll (table.map Prod.fst) v).ofKinds kinds =
      (pass v (runAll ((table.take i).map Prod.fst) v)).symbols := by
  obtain ⟨hlt, hentry⟩ := List.getElem?_eq_some_iff.mp hi
  have htable : table.take i ++ (pass, kinds) :: table.drop (i + 1) = table := by
    rw [← hentry, List.getElem_cons_drop, List.take_append_drop]
  rw [← htable] at h
  have hothers := h.emits_others
  rw [List.map_append] at hothers
  obtain ⟨hbefore, hlater⟩ := List.forall_mem_append.mp hothers
  have hown := h.emits (pass, kinds) (List.mem_append_right _ List.mem_cons_self)
  have hfirst : (runAll ((table.take i).map Prod.fst) v).ofKinds kinds = [] := ofKinds_after hbefore {}
  have hpass : (table.map Prod.fst)[i]? = some pass := by rw [List.getElem?_map, hi, Option.map_some]
  rw [runAll_eq_after hpass, ← List.map_take, ← List.map_drop, ofKinds_after hlater, Findings.ofKinds_append, hfirst,
    List.nil_append, Findings.ofKinds_eq_symbols (hown _)]

end Pass

end SourceAtlas
