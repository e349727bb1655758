import SourceAtlas.Extract.Findings
import SourceAtlas.Proofs.Tree.Below

namespace SourceAtlas

variable {v : View} {p q : Place} {s : Symbol}

namespace Symbol

def IsMember (v : View) (p : Place) (s : Symbol) : Prop :=
  s.children = [] ∧ ∃ q, p.Holds q ∧ s.span = v.span q

lemma IsMember.mono (h : s.IsMember v q) (hp : p.Holds q) : s.IsMember v p := by
  obtain ⟨hc, r, hr, hs⟩ := h
  exact ⟨hc, r, hp.trans hr, hs⟩

end Symbol

namespace View

def Locates (v : View) (s : Symbol) : Prop :=
  ∃ p, v.root.Holds p ∧ s.span = v.span p ∧ ∀ c ∈ s.children, c.IsMember v p

variable {kind : SymbolKind} {name signature docstring : String} {children : List Symbol}

lemma isMember_symbol (h : p.Holds q) : (v.symbol q kind name signature docstring).IsMember v p :=
  ⟨rfl, q, h, rfl⟩

lemma locates_symbol (hp : v.root.Holds p) (hc : ∀ c ∈ children, c.IsMember v p) :
    v.Locates (v.symbol p kind name signature docstring children) :=
  ⟨p, hp, rfl, hc⟩

lemma locates_leaf (hp : v.root.Holds p) : v.Locates (v.symbol p kind name signature docstring) :=
  locates_symbol hp fun _ hc => absurd hc List.not_mem_nil

end View

lemma forall_mem_filterMap_map {α β γ : Type} {xs : List α} {f : α → Option β} {g : α → β → γ} {P : γ → Prop}
    (h : ∀ x ∈ xs, ∀ y, P (g x y)) : ∀ z ∈ xs.filterMap fun x => (f x).map (g x), P z := by
  intro z hz
  obtain ⟨x, hx, hf⟩ := List.mem_filterMap.mp hz
  obtain ⟨y, _, rfl⟩ := Option.map_eq_some_iff.mp hf
  exact h x hx y

lemma Place.holds_of_mem_filterMap {α : Type} {places : List Place} {f : Place → Option α} {item : Place × α}
    (hp : ∀ q ∈ places, p.Holds q) (h : item ∈ places.filterMap fun q => (f q).map (q, ·)) :
    p.Holds item.1 :=
  forall_mem_filterMap_map (P := fun item => p.Holds item.1) (fun q hq _ => hp q hq) item h

namespace Findings

variable {P : Symbol → Prop} {f g : Findings} {fs : List Findings}

lemma append_symbols (f g : Findings) : (f ++ g).symbols = f.symbols ++ g.symbols := rfl

lemma symbols_concat (fs : List Findings) : (concat fs).symbols = fs.flatMap (·.symbols) := by
  induction fs with
  | nil => rfl
  | cons f fs ih => rw [concat, append_symbols, ih, List.flatMap_cons]

lemma symbols_concat_map {α : Type} {find : α → Findings} {symbol : α → Symbol}
    (h : ∀ x, (find x).symbols = [symbol x]) (xs : List α) : (concat (xs.map find)).symbols = xs.map symbol := by
  rw [symbols_concat, List.flatMap_map, List.map_eq_flatMap]
  simp only [h]

def Emits (P : Symbol → Prop) (f : Findings) : Prop := ∀ s ∈ f.symbols, P s

lemma emits_nothing (h : f.symbols = []) : f.Emits P := by
  intro s hs
  rw [h] at hs
  cases hs

lemma emits_ofDeclarations {items : List (Place × Symbol)} (h : ∀ item ∈ items, P item.2) :
    (ofDeclarations items).Emits P :=
  List.forall_mem_map.mpr h

lemma Emits.append (hf : f.Emits P) (hg : g.Emits P) : (f ++ g).Emits P :=
  List.forall_mem_append.mpr ⟨hf, hg⟩

lemma emits_concat (h : ∀ f ∈ fs, f.Emits P) : (concat fs).Emits P := by
  induction fs with
  | nil => exact emits_nothing rfl
  | cons f fs ih =>
    obtain ⟨hf, hfs⟩ := List.forall_mem_cons.mp h
    exact hf.append (ih hfs)

end Findings

namespace Pass

variable {P : Symbol → Prop} {passes : List Pass}

def Emits (P : Symbol → Prop) (v : View) (pass : Pass) : Prop := ∀ found, (pass v found).Emits P

lemma emits_mono {Q : Symbol → Prop} (hq : ∀ s, P s → Q s) (h : ∀ pass ∈ passes, Emits P v pass) :
    ∀ pass ∈ passes, Emits Q v pass :=
  fun pass hp found s hs => hq s (h pass hp found s hs)

lemma emits_runAll (h : ∀ pass ∈ passes, Emits P v pass) : (runAll passes v).Emits P := by
  have hstep : ∀ found : Findings, found.Emits P →
      (passes.foldl (fun found pass => found ++ pass v found) found).Emits P := by
    induction passes with
    | nil => exact fun found hf => hf
    | cons pass passes ih =>
      obtain ⟨hp, hps⟩ := List.forall_mem_cons.mp h
      exact fun found hf => ih hps _ (hf.append (hp found))
  exact hstep {} (Findings.emits_nothing rfl)

end Pass

end SourceAtlas
