import Mathlib.Algebra.BigOperators.Group.List.Basic
import Mathlib.Algebra.Order.Group.Multiset
import Mathlib.Tactic.Abel
import SourceAtlas.Proofs.Batch.Transitions

/-! Each file is in the queue, with one worker, on its way or collected, and each step of a batch only moves it on. -/

namespace SourceAtlas

lemma sum_map_set {α M : Type} [AddCommMonoid M] (f : α → M) {xs : List α} {i : ℕ} {x : α} (y : α)
    (h : xs[i]? = some x) : ((xs.set i y).map f).sum + f x = (xs.map f).sum + f y := by
  induction xs generalizing i with
  | nil => simp at h
  | cons z zs ih =>
    cases i with
    | zero =>
      obtain rfl : z = x := by simpa using h
      simp only [List.set_cons_zero, List.map_cons, List.sum_cons]
      abel
    | succ i =>
      have hh := ih (by simpa using h)
      simp only [List.set_cons_succ, List.map_cons, List.sum_cons]
      rw [add_assoc, hh, add_assoc]

namespace Batch

variable {α : Type} (g : ScannedFile → α) (r : Result → α)
variable {s : Setting} {b b' : Batch} {a : Action} {actions : List Action}

def share : WorkerState → Multiset α
  | .holding _ file => {g file}
  | .reporting _ result => {r result}
  | _ => 0

/-- All files of a batch, valued by `g` before and by `r` after the work on them. -/
def ledger (b : Batch) : Multiset α :=
  (b.received.map r : Multiset α) + (b.sent.map r : Multiset α) + (b.workers.map (share g r)).sum +
    (b.jobs.map g : Multiset α)

lemma share_outfitted (k : Kit) : share g r (outfitted k) = 0 := by
  cases k <;> rfl

lemma ledger_initial (files : List ScannedFile) (workers : ℕ) (cancelled : Bool) :
    (initial files workers cancelled).ledger g r = (files.map g : Multiset α) := by
  unfold initial
  split
  · rename_i h
    simp [ledger, List.isEmpty_iff.mp h]
  · simp [ledger, share]

variable {g r}

lemma share_set {id : ℕ} {x : WorkerState} (y : WorkerState) (h : b.workers[id]? = some x) :
    ((b.workers.set id y).map (share g r)).sum + share g r x =
      (b.workers.map (share g r)).sum + share g r y :=
  sum_map_set (share g r) y h

lemma step_ledger (hs : Step s b a b')
    (hw : ∀ (id : ℕ) (w : Worker) (file : ScannedFile), b.workers[id]? = some (.holding w file) →
      r (w.handle s.disk b.cancelled id file).1 = g file) : b'.ledger g r = b.ledger g r := by
  cases hs with
  | @start id h =>
    have hh := share_set (g := g) (r := r) (outfitted (s.kit id)) h
    rw [share_outfitted] at hh
    simp only [share, add_zero] at hh
    simp only [ledger, setWorker, hh]
  | @take id w file jobs h hj =>
    have hh := share_set (g := g) (r := r) (.holding w file) h
    simp only [share, add_zero] at hh
    simp only [ledger, setWorker, hh, hj, List.map_cons, ← Multiset.cons_coe, ← Multiset.singleton_add]
    abel
  | @handle id w file h =>
    have hh := share_set (g := g) (r := r)
      (.reporting (w.handle s.disk b.cancelled id file).2 (w.handle s.disk b.cancelled id file).1) h
    simp only [share, hw id w file h, add_left_inj] at hh
    simp only [ledger, setWorker, hh]
  | @send id w result h =>
    have hh := share_set (g := g) (r := r) (.free w) h
    simp only [share, add_zero] at hh
    simp only [ledger, setWorker, ← hh, List.map_append, List.map_singleton, ← Multiset.coe_add,
      Multiset.coe_singleton]
    abel
  | @leave id w h hj =>
    have hh := share_set (g := g) (r := r) .gone h
    simp only [share, add_zero] at hh
    simp only [ledger, setWorker, hh]
  | drain h => rfl
  | @collect result sent hp h =>
    simp only [ledger, receive, h, List.map_append, List.map_cons, List.map_nil, ← Multiset.coe_add,
      ← Multiset.cons_coe, ← Multiset.singleton_add, Multiset.coe_nil]
    abel
  | close hp h hw => rfl
  | cancel => rfl

lemma sum_share_gone (h : ∀ w ∈ b.workers, w = .gone) : (b.workers.map (share g r)).sum = 0 := by
  apply List.sum_eq_zero
  intro x hx
  obtain ⟨w, hw, rfl⟩ := List.mem_map.mp hx
  rw [h w hw]
  rfl

lemma ledger_of_gone (hw : ∀ w ∈ b.workers, w = .gone) (hs : b.sent = []) (hj : b.jobs = []) :
    b.ledger g r = (b.received.map r : Multiset α) := by
  simp [ledger, sum_share_gone hw, hs, hj]

end Batch

end SourceAtlas
