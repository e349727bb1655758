import Mathlib.Logic.Relation
import SourceAtlas.Proofs.Tree.Descendants

namespace SourceAtlas

namespace Place

variable {p q r : Place}

def Holds (p q : Place) : Prop := Relation.ReflTransGen (fun a b => b ∈ a.children) p q

lemma Holds.refl (p : Place) : p.Holds p := Relation.ReflTransGen.refl

lemma Holds.trans (h : p.Holds q) (hr : q.Holds r) : p.Holds r := Relation.ReflTransGen.trans h hr

lemma holds_of_mem_children (h : q ∈ p.children) : p.Holds q := Relation.ReflTransGen.single h

lemma holds_of_mem_namedChildren (h : q ∈ p.namedChildren) : p.Holds q :=
  holds_of_mem_children (List.mem_filter.mp h).1

lemma holds_of_find? {f : Place → Bool} (h : p.children.find? f = some q) : p.Holds q :=
  holds_of_mem_children (List.mem_of_find?_eq_some h)

lemma holds_of_mem_walk {keep : Node → Bool} {stack : List Place} (h : q ∈ walk keep stack) :
    ∃ p ∈ stack, p.Holds q := by
  induction stack using walk.induct keep with
  | case1 =>
    rw [walk] at h
    exact absurd h List.not_mem_nil
  | case2 p stack ih =>
    rw [walk] at h
    rcases List.mem_cons.mp h with rfl | h
    · exact ⟨q, List.mem_cons_self, .refl q⟩
    · obtain ⟨r, hr, hq⟩ := ih h
      rcases List.mem_append.mp hr with hr | hr
      · have hp := holds_of_mem_children (List.mem_filter.mp hr).1
        exact ⟨p, List.mem_cons_self, hp.trans hq⟩
      · exact ⟨r, List.mem_cons_of_mem _ hr, hq⟩

lemma holds_of_mem_namedDescendants {kinds : List String} (h : q ∈ p.namedDescendants kinds) : p.Holds q := by
  obtain ⟨r, hr, hq⟩ := holds_of_mem_walk (List.mem_filter.mp h).1
  obtain rfl := List.mem_singleton.mp hr
  exact hq

lemma holds_of_mem_descendants (h : q ∈ p.descendants) : p.Holds q := by
  obtain ⟨r, hr, hq⟩ := holds_of_mem_walk h
  obtain rfl := List.mem_singleton.mp hr
  exact hq

lemma mem_descendants : q ∈ p.descendants ↔ p.Holds q := by
  refine ⟨holds_of_mem_descendants, fun h => ?_⟩
  induction h with
  | refl => exact mem_walk (List.mem_singleton_self p)
  | tail _ hq ih => exact mem_descendants_of_mem_children ih hq

end Place

def Match.Within (p : Place) (m : Match) : Prop := ∀ c ∈ m.captures, p.Holds c.2

namespace Match

variable {p q : Place} {m first second : Match} {name : String}

lemma within_empty (p : Place) : Within p {} := by
  intro c hc
  cases hc

lemma Within.mono (h : m.Within q) (hp : p.Holds q) : m.Within p := fun c hc => hp.trans (h c hc)

lemma Within.append (h : first.Within p) (hs : second.Within p) : (first.append second).Within p := by
  intro c hc
  exact (List.mem_append.mp hc).elim (h c) (hs c)

lemma Within.capture (h : m.Within p) (name : Option String) : (capture name p m).Within p := by
  intro c hc
  rcases List.mem_append.mp hc with hc | hc
  · obtain ⟨_, _, rfl⟩ := List.mem_map.mp hc
    exact .refl p
  · exact h c hc

lemma Within.place? (h : m.Within p) (hq : m.place? name = some q) : p.Holds q := by
  obtain ⟨c, hc, rfl⟩ := Option.map_eq_some_iff.mp hq
  exact h c (List.mem_of_find?_eq_some hc)

end Match

lemma mem_of_mem_choices {α : Type} {xs : List α} {c : α × List α} (h : c ∈ choices xs) :
    c.1 ∈ xs ∧ c.2 ⊆ xs := by
  induction xs with
  | nil => cases h
  | cons x xs ih =>
    rw [choices] at h
    rcases List.mem_cons.mp h with rfl | h
    · exact ⟨List.mem_cons_self, List.subset_cons_self _ _⟩
    · obtain ⟨h₁, h₂⟩ := ih h
      exact ⟨List.mem_cons_of_mem _ h₁, fun y hy => List.mem_cons_of_mem _ (h₂ hy)⟩

namespace Pattern

mutual

lemma within_run : (pattern : Pattern) → (p : Place) → ∀ m ∈ pattern.run p, m.Within p
  | .node field kind capture children, p => by
    intro m hm
    rw [run] at hm
    split at hm
    · obtain ⟨inner, hi, rfl⟩ := List.mem_map.mp hm
      apply Match.Within.capture
      exact within_runAll children p p.children (fun q hq => Place.holds_of_mem_children hq) inner hi
    · cases hm
  | .oneOf field capture options, p => by
    intro m hm
    rw [run] at hm
    split at hm
    · obtain ⟨inner, hi, rfl⟩ := List.mem_map.mp hm
      exact (within_runAny options p inner hi).capture capture
    · cases hm

lemma within_runAny : (options : List Pattern) → (p : Place) → ∀ m ∈ runAny options p, m.Within p
  | [], _ => by
    intro m hm
    rw [runAny] at hm
    cases hm
  | option :: options, p => by
    intro m hm
    rw [runAny] at hm
    exact (List.mem_append.mp hm).elim (within_run option p m) (within_runAny options p m)

lemma within_runAll : (patterns : List Pattern) → (p : Place) → (places : List Place) →
    (∀ q ∈ places, p.Holds q) → ∀ m ∈ runAll patterns places, m.Within p
  | [], p, _, _ => by
    intro m hm
    rw [runAll] at hm
    obtain rfl := List.mem_singleton.mp hm
    exact Match.within_empty p
  | pattern :: patterns, p, places, hp => by
    intro m hm
    rw [runAll] at hm
    obtain ⟨⟨q, later⟩, hc, hm⟩ := List.mem_flatMap.mp hm
    obtain ⟨first, hf, hm⟩ := List.mem_flatMap.mp hm
    obtain ⟨rest, hr, rfl⟩ := List.mem_map.mp hm
    obtain ⟨hq, hl⟩ := mem_of_mem_choices hc
    have hfirst := (within_run pattern q first hf).mono (hp q hq)
    exact hfirst.append (within_runAll patterns p later (fun r hr => hp r (hl hr)) rest hr)

end

lemma place?_of_mem_run_captured {pattern : Pattern} {name : String} {p : Place} {m : Match}
    (h : m ∈ (pattern.captured name).run p) : m.place? name = some p := by
  have hfirst (inner : Match) : (inner.capture (some name) p).place? name = some p := by
    simp [Match.capture, Match.place?]
  cases pattern with
  | node field kind capture children =>
    rw [captured, run] at h
    split at h
    · obtain ⟨inner, _, rfl⟩ := List.mem_map.mp h
      exact hfirst _
    · cases h
  | oneOf field capture options =>
    rw [captured, run] at h
    split at h
    · obtain ⟨inner, _, rfl⟩ := List.mem_map.mp h
      exact hfirst _
    · cases h

end Pattern

namespace View

variable {v : View} {pattern : Pattern} {m : Match} {name : String} {p : Place}

lemma within_of_mem_findAll (h : m ∈ v.findAll pattern) : m.Within v.root := by
  obtain ⟨p, hp, hr⟩ := exists_run_of_mem_findAll h
  exact (Pattern.within_run pattern p m hr).mono (Place.holds_of_mem_descendants hp)

lemma holds_of_mem_placesOf (h : p ∈ v.placesOf name pattern) : v.root.Holds p := by
  obtain ⟨m, hm, hp⟩ := List.mem_filterMap.mp h
  exact (within_of_mem_findAll hm).place? hp

lemma holds_of_mem_definitions {d : Definition} (h : d ∈ v.definitions pattern) : v.root.Holds d.node := by
  obtain ⟨m, hm, hd⟩ := List.mem_filterMap.mp h
  unfold Definition.ofMatch? at hd
  split at hd
  · rename_i hnode
    obtain rfl := Option.some.inj hd
    exact (within_of_mem_findAll hm).place? hnode
  · cases hd

end View

end SourceAtlas
