import SourceAtlas.Proofs.Batch.Coverage
import SourceAtlas.Proofs.Extraction.Fresh
import SourceAtlas.Proofs.Pairing.Permutation

namespace SourceAtlas

namespace Batch

variable {registry : Registry} {s : Setting} {b b' : Batch} {a : Action} {actions : List Action}
variable {files : List ScannedFile} {workers : ℕ}

def Equipped (registry : Registry) (disk : Disk) : WorkerState → Prop
  | .free w | .holding w _ | .reporting w _ => w.registry = some registry ∧ w.modules.Agrees disk
  | .waiting | .gone => True

structure Undisturbed (registry : Registry) (disk : Disk) (b : Batch) : Prop where
  running : b.cancelled = false
  equipped : ∀ w ∈ b.workers, Equipped registry disk w

lemma Undisturbed.setWorker (h : Undisturbed registry s.disk b) (id : ℕ) {w : WorkerState}
    (hw : Equipped registry s.disk w) : Undisturbed registry s.disk (b.setWorker id w) := by
  refine ⟨h.running, fun x hx => ?_⟩
  rcases List.mem_or_eq_of_mem_set hx with hx | rfl
  · exact h.equipped x hx
  · exact hw

end Batch

end SourceAtlas
