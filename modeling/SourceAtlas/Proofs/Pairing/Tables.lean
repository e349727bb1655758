import Mathlib.Data.Nat.Notation
import Mathlib.Tactic.Lemma
import SourceAtlas.Pairing

namespace SourceAtlas

lemma modify_length_append {α : Type} (f : α → α) (earlier : List α) (x : α) (later : List α) :
    (earlier ++ x :: later).modify earlier.length f = earlier ++ f x :: later := by
  induction earlier with
  | nil => rfl
  | cons y earlier ih => exact congrArg (y :: ·) ih

lemma foldl_modify_numbered {α β : Type} (edit? : α → Option β) (apply : β → α → α) (earlier later : List α) :
    ((later.zipIdx earlier.length).filterMap fun (x, i) => (edit? x).map (i, ·)).foldl
        (fun xs (i, edit) => xs.modify i (apply edit)) (earlier ++ later) =
      earlier ++ later.map fun x => (edit? x).elim x (apply · x) := by
  induction later generalizing earlier with
  | nil => simp
  | cons x later ih =>
    have hnext (y : α) := ih (earlier ++ [y])
    simp only [List.length_append, List.length_singleton, List.append_assoc, List.singleton_append] at hnext
    rw [List.zipIdx_cons, List.filterMap_cons]
    cases hx : edit? x with
    | none => simpa [hx] using hnext x
    | some edit => simpa [hx, modify_length_append] using hnext (apply edit x)

lemma Path.same_iff {p q : Path} : p.same q = true ↔ p.components = q.components := by
  simp [same]

lemma Path.same_eq_decide (p q : Path) : p.same q = decide (p.components = q.components) := by
  rw [Bool.eq_iff_iff, same_iff, decide_eq_true_iff]

namespace Pairing

variable {disk : Disk} {scanned : List ScannedFile} {files : List Outline}

lemma diskPath?_eq_find? (p : Path) :
    diskPath? scanned p = (scanned.reverse.find? (·.path.same p)).map (·.diskPath) := by
  rw [diskPath?, places, Table.get?_ofList, ← List.map_reverse, List.find?_map, Option.map_map]
  simp only [Path.same_eq_decide]
  rfl

lemma fileAt?_eq_find? (p : Path) :
    fileAt? files scanned p = files.reverse.find? fun f => (diskPath? scanned f.path).any (·.same p) := by
  rw [fileAt?, numbers, Table.get?_numbering_bind]
  congr 1
  funext f
  cases diskPath? scanned f.path with
  | none => rfl
  | some place => simp [Path.same_eq_decide, eq_comm]

def gained (disk : Disk) (files : List Outline) (scanned : List ScannedFile) (file : Outline) :
    List Dependency :=
  match headerOf? disk files scanned file with
  | some header => link header file
  | none => []

lemma resolve_eq_map : resolve disk scanned files =
    files.map fun file => { file with dependencies := file.dependencies ++ gained disk files scanned file } := by
  have hall := foldl_modify_numbered
    (fun file => (headerOf? disk files scanned file).map fun header => link header file)
    (fun edges file => { file with dependencies := file.dependencies ++ edges }) [] files
  simp only [List.length_nil, List.nil_append, Option.map_map] at hall
  rw [resolve, pending]
  refine hall.trans (List.map_congr_left fun file _ => ?_)
  rw [gained]
  cases headerOf? disk files scanned file with
  | some header => rfl
  | none => simp

end Pairing

end SourceAtlas
