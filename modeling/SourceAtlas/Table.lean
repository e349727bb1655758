namespace SourceAtlas

structure Table (K V : Type) where
  entries : List (K × V) := []

namespace Table

variable {K V α : Type} [DecidableEq K]

def get? (t : Table K V) (k : K) : Option V := (t.entries.find? (·.1 == k)).map (·.2)

def insert (t : Table K V) (k : K) (v : V) : Table K V := ⟨(k, v) :: t.entries.filter (·.1 != k)⟩

/-- Of several values for one key, the last counts. -/
def ofList (pairs : List (K × V)) : Table K V := pairs.foldl (fun t pair => t.insert pair.1 pair.2) {}

/-- Where in a list the items with each key stand. An item may have several keys. -/
def numbering (keys : α → List K) (items : List α) : Table K Nat :=
  ofList (items.zipIdx.flatMap fun (item, i) => (keys item).map (·, i))

theorem get?_insert (t : Table K V) (k l : K) (v : V) :
    (t.insert k v).get? l = if k = l then some v else t.get? l := by
  by_cases h : k = l
  · simp [get?, insert, h]
  · have hkept : (t.entries.filter (·.1 != k)).find? (·.1 == l) = t.entries.find? (·.1 == l) := by
      rw [List.find?_filter]
      congr 1
      funext pair
      by_cases hp : pair.1 = l
      · simp [hp, Ne.symm h]
      · simp [hp]
    simp [get?, insert, h, hkept]

theorem get?_foldl_insert (pairs : List (K × V)) (t : Table K V) (k : K) :
    (pairs.foldl (fun t pair => t.insert pair.1 pair.2) t).get? k =
      ((pairs.reverse.find? (·.1 == k)).map (·.2)).or (t.get? k) := by
  induction pairs generalizing t with
  | nil => rfl
  | cons pair pairs ih =>
    rw [List.foldl_cons, ih, get?_insert, List.reverse_cons, List.find?_append]
    cases pairs.reverse.find? (·.1 == k) with
    | some last => rfl
    | none => by_cases h : pair.1 = k <;> simp [h]

theorem get?_ofList (pairs : List (K × V)) (k : K) :
    (ofList pairs).get? k = (pairs.reverse.find? (·.1 == k)).map (·.2) := by
  rw [ofList, get?_foldl_insert]
  exact Option.or_none

theorem find?_reverse_numbered (ks : List K) (i : Nat) (k : K) :
    (ks.map (·, i)).reverse.find? (·.1 == k) = if ks.contains k then some (k, i) else none := by
  rw [← List.map_reverse, List.find?_map]
  cases hf : ks.reverse.find? ((fun pair : K × Nat => pair.1 == k) ∘ (·, i)) with
  | some l =>
    have hl : l = k := by simpa using List.find?_some hf
    have hm : k ∈ ks := hl ▸ List.mem_reverse.mp (List.mem_of_find?_eq_some hf)
    simp [hl, hm]
  | none =>
    have hm : k ∉ ks := fun hm => by simpa using List.find?_eq_none.mp hf k (List.mem_reverse.mpr hm)
    simp [hm]

theorem get?_numbering_bind (keys : α → List K) (items : List α) (k : K) :
    ((numbering keys items).get? k).bind (items[·]?) = items.reverse.find? fun item => (keys item).contains k := by
  have hall (zs : List (α × Nat)) (hz : ∀ z ∈ zs, items[z.2]? = some z.1) :
      ((zs.findSome? fun z => ((keys z.1).map (·, z.2)).reverse.find? (·.1 == k)).map (·.2)).bind (items[·]?) =
        (zs.map (·.1)).find? fun item => (keys item).contains k := by
    induction zs with
    | nil => rfl
    | cons z zs ih =>
      obtain ⟨hfirst, hrest⟩ := List.forall_mem_cons.mp hz
      rw [List.findSome?_cons, find?_reverse_numbered, List.map_cons, List.find?_cons]
      cases (keys z.1).contains k with
      | true => exact hfirst
      | false => exact ih hrest
  have hitems : items.reverse = items.zipIdx.reverse.map (·.1) := by
    rw [List.map_reverse, List.zipIdx_map_fst]
  rw [numbering, get?_ofList, List.reverse_flatMap, List.find?_flatMap, hitems]
  apply hall
  intro z hz
  exact List.mem_zipIdx_iff_getElem?.mp (List.mem_reverse.mp hz)

end Table

end SourceAtlas
