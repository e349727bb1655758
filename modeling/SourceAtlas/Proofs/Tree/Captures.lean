import SourceAtlas.Proofs.Tree.Below

namespace SourceAtlas

lemma exists_mem_choices {α : Type} {xs : List α} {x : α} (h : x ∈ xs) : ∃ later, (x, later) ∈ choices xs := by
  obtain ⟨earlier, later, rfl⟩ := List.append_of_mem h
  refine ⟨later, ?_⟩
  induction earlier with
  | nil => exact List.mem_cons_self
  | cons y earlier ih => exact List.mem_cons_of_mem _ (ih (by simp))

def Pattern.Captures (pattern : Pattern) (name : String) (p q : Place) : Prop :=
  ∃ m ∈ pattern.run p, m.place? name = some q

lemma View.mem_placesOf {v : View} {name : String} {pattern : Pattern} {q : Place} :
    q ∈ v.placesOf name pattern ↔ ∃ p, v.root.Holds p ∧ pattern.Captures name p q := by
  rw [placesOf, List.mem_filterMap]
  constructor
  · rintro ⟨m, hm, hq⟩
    obtain ⟨p, hp, hr⟩ := exists_run_of_mem_findAll hm
    exact ⟨p, Place.mem_descendants.mp hp, m, hr, hq⟩
  · rintro ⟨p, hp, m, hr, hq⟩
    refine ⟨m, ?_, hq⟩
    apply List.mem_mergeSort.mpr
    exact List.mem_filter.mpr ⟨List.mem_flatMap.mpr ⟨p, Place.mem_descendants.mpr hp, hr⟩, rfl⟩

lemma Match.append_empty (m : Match) : m.append {} = m := by simp [append]

namespace Pattern

variable {p q : Place} {m : Match} {kind field name : String}

lemma mem_runAny {options : List Pattern} : m ∈ runAny options p ↔ ∃ option ∈ options, m ∈ option.run p := by
  induction options with
  | nil => simp [runAny]
  | cons option options ih => simp [runAny, ih]

lemma captures_either {options : List Pattern} :
    (either options).Captures name p q ↔ ∃ option ∈ options, option.Captures name p q := by
  have hrun : (either options).run p = runAny options p := by
    rw [either, run]
    exact List.map_id _
  simp only [Captures, hrun, mem_runAny]
  grind

lemma mem_runAll_singleton {pattern : Pattern} {places : List Place} :
    m ∈ runAll [pattern] places ↔ ∃ p ∈ places, m ∈ pattern.run p := by
  simp only [runAll, List.mem_flatMap, List.map_singleton, List.mem_singleton, Match.append_empty,
    exists_eq_right']
  constructor
  · rintro ⟨⟨p, later⟩, hc, hm⟩
    exact ⟨p, (mem_of_mem_choices hc).1, hm⟩
  · rintro ⟨p, hp, hm⟩
    obtain ⟨later, hc⟩ := exists_mem_choices hp
    exact ⟨(p, later), hc, hm⟩

lemma fits_some {wanted : String} {found : Option String} : fits (some wanted) found = true ↔ found = some wanted := by
  rw [fits, Option.isNone_some, Bool.false_or, beq_iff_eq, eq_comm]

lemma mem_run_node {field kind capture : Option String} {children : List Pattern} :
    m ∈ (node field kind capture children).run p ↔
      (p.node.named = true ∧ fits field p.node.field = true ∧ fits kind (some p.node.kind) = true) ∧
        ∃ inner ∈ runAll children p.children, Match.capture capture p { inner with seen := p :: inner.seen } = m := by
  rw [run]
  split
  · rename_i htest
    rw [Bool.and_eq_true, Bool.and_eq_true, and_assoc] at htest
    rw [List.mem_map, and_iff_right htest]
  · rename_i htest
    rw [Bool.and_eq_true, Bool.and_eq_true, and_assoc] at htest
    exact iff_of_false List.not_mem_nil fun h => htest h.1

lemma captures_child {childKind : String} :
    (ofKind kind [((ofKind childKind).inField field).captured name]).Captures name p q ↔
      (p.node.named = true ∧ p.kind = kind) ∧ q ∈ p.namedChildren ∧ q.kind = childKind ∧ q.node.field = some field := by
  have hleaf (r : Place) (m : Match) : m ∈ (((ofKind childKind).inField field).captured name).run r ↔
      (r.node.named = true ∧ r.node.field = some field ∧ r.kind = childKind) ∧ ⟨[(name, r)], [r]⟩ = m := by
    rw [ofKind, inField, captured, mem_run_node, fits_some, fits_some, Option.some_inj]
    simp [runAll, Match.capture, Place.kind]
  have hplace (r : Place) : Match.place? ⟨[(name, r)], [r]⟩ name = some r := by simp [Match.place?]
  simp only [Captures, ofKind, mem_run_node, fits_some, Option.some_inj, mem_runAll_singleton]
  constructor
  · rintro ⟨_, ⟨⟨hn, -, hk⟩, inner, ⟨r, hr, hm⟩, rfl⟩, hq⟩
    obtain ⟨⟨hrn, hrf, hrk⟩, rfl⟩ := (hleaf r inner).mp hm
    obtain rfl := Option.some.inj ((hplace r).symm.trans hq)
    exact ⟨⟨hn, hk⟩, List.mem_filter.mpr ⟨hr, hrn⟩, hrk, hrf⟩
  · rintro ⟨⟨hn, hk⟩, hq, hqk, hqf⟩
    obtain ⟨hq, hqn⟩ := List.mem_filter.mp hq
    have hm := (hleaf q _).mpr ⟨⟨hqn, hqf, hqk⟩, rfl⟩
    exact ⟨_, ⟨⟨hn, rfl, hk⟩, _, ⟨q, hq, hm⟩, rfl⟩, hplace q⟩

end Pattern

end SourceAtlas
