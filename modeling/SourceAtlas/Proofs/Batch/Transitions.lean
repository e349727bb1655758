import Mathlib.Tactic.Lemma
import SourceAtlas.Pool.Batch

namespace SourceAtlas.Batch

variable {s : Setting} {b b' : Batch} {a : Action} {actions : List Action}

inductive Step (s : Setting) (b : Batch) : Action → Batch → Prop
  | start {id} : b.workers[id]? = some .waiting →
      Step s b (.start id) (b.setWorker id (outfitted (s.kit id)))
  | take {id w file jobs} : b.workers[id]? = some (.free w) → b.jobs = file :: jobs →
      Step s b (.take id) { b.setWorker id (.holding w file) with jobs }
  | handle {id w file} : b.workers[id]? = some (.holding w file) →
      Step s b (.handle id) (b.setWorker id
        (.reporting (w.handle s.disk b.cancelled id file).2 (w.handle s.disk b.cancelled id file).1))
  | send {id w result} : b.workers[id]? = some (.reporting w result) →
      Step s b (.send id) { b.setWorker id (.free w) with sent := b.sent ++ [result] }
  | leave {id w} : b.workers[id]? = some (.free w) → b.jobs = [] →
      Step s b (.leave id) (b.setWorker id .gone)
  | drain : b.phase = .dispatching → Step s b .drain { b with phase := .draining }
  | collect {result sent} : b.phase = .draining → b.sent = result :: sent →
      Step s b .collect (b.receive s.total result sent)
  | close : b.phase = .draining → b.sent = [] → (∀ w ∈ b.workers, w = .gone) →
      Step s b .close { b with phase := .done }
  | cancel : Step s b .cancel { b with cancelled := true }

lemma isGone_iff (w : WorkerState) : w.isGone = true ↔ w = .gone := by
  cases w <;> simp [WorkerState.isGone]

lemma Step.of_step (h : b.step s a = some b') : Step s b a b' := by
  cases a with
  | start id =>
    simp only [step] at h
    split at h
    · cases h
      exact .start ‹_›
    · cases h
  | take id =>
    simp only [step] at h
    split at h
    · cases h
      exact .take ‹_› ‹_›
    · cases h
  | handle id =>
    simp only [step] at h
    split at h
    · cases h
      exact .handle ‹_›
    · cases h
  | send id =>
    simp only [step] at h
    split at h
    · cases h
      exact .send ‹_›
    · cases h
  | leave id =>
    simp only [step] at h
    split at h
    · cases h
      exact .leave ‹_› ‹_›
    · cases h
  | drain =>
    simp only [step] at h
    split at h
    · cases h
      exact .drain ‹_›
    · cases h
  | collect =>
    simp only [step] at h
    split at h
    · cases h
      exact .collect ‹_› ‹_›
    · cases h
  | close =>
    simp only [step] at h
    split at h
    · rename_i hc
      simp only [Bool.and_eq_true, decide_eq_true_eq, List.isEmpty_iff, List.all_eq_true, isGone_iff] at hc
      obtain ⟨⟨hp, hs⟩, hw⟩ := hc
      cases h
      exact .close hp hs hw
    · cases h
  | cancel =>
    cases h
    exact .cancel

lemma Step.step_eq (h : Step s b a b') : b.step s a = some b' := by
  cases h with
  | start hw => simp [step, hw]
  | take hw hj => simp [step, hw, hj]
  | handle hw => simp [step, hw]
  | send hw => simp [step, hw]
  | leave hw hj => simp [step, hw, hj]
  | drain hp => simp [step, hp]
  | collect hp hs => simp [step, hp, hs]
  | close hp hs hw =>
    have hall : b.workers.all WorkerState.isGone = true :=
      List.all_eq_true.mpr fun w hm => (isGone_iff w).mpr (hw w hm)
    simp [step, hp, hs, hall]
  | cancel => rfl

lemma run_append (first second : List Action) :
    b.run s (first ++ second) = (b.run s first).run s second := by
  simp only [run, List.foldl_append]

lemma run_cons_of_step (h : Step s b a b') : b.run s (a :: actions) = b'.run s actions := by
  simp only [run, List.foldl_cons, h.step_eq, Option.getD_some]

lemma run_induction {P : Batch → Prop} (h : P b)
    (hstep : ∀ a ∈ actions, ∀ b b', Step s b a b' → P b → P b') : P (b.run s actions) := by
  induction actions generalizing b with
  | nil => exact h
  | cons a rest ih =>
    have hrest : ∀ a ∈ rest, ∀ b b', Step s b a b' → P b → P b' :=
      fun a ha => hstep a (List.mem_cons_of_mem _ ha)
    have hfirst : P ((b.step s a).getD b) := by
      cases hs : b.step s a with
      | none => exact h
      | some next => exact hstep a List.mem_cons_self b next (.of_step hs) h
    exact ih hfirst hrest

/-- A batch has ended when nothing is left to be done; it may still be cancelled, to no effect. -/
def Ended (s : Setting) (b : Batch) : Prop := ∀ a, a ≠ .cancel → b.step s a = none

lemma Ended.not_step (h : Ended s b) (ha : a ≠ .cancel) : ¬ Step s b a b' := by
  intro hs
  have hn := h a ha
  rw [hs.step_eq] at hn
  cases hn

@[simp] lemma setWorker_workers (id : Nat) (w : WorkerState) :
    (b.setWorker id w).workers = b.workers.set id w := rfl

end SourceAtlas.Batch
