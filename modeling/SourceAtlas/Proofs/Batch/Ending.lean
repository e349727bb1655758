import SourceAtlas.Proofs.Batch.Ledger

namespace SourceAtlas

def Phase.weight : Phase → ℕ
  | .idle | .dispatching => 2
  | .draining => 1
  | .done => 0

namespace Batch

variable {s : Setting} {b b' : Batch} {a : Action} {actions : List Action} {files : List ScannedFile}
variable {workers : ℕ} {cancelled : Bool}

def effort : WorkerState → ℕ
  | .waiting => 2
  | .free _ => 1
  | .holding _ _ => 4
  | .reporting _ _ => 3
  | .gone => 0

def weight (b : Batch) : ℕ :=
  4 * b.jobs.length + (b.workers.map effort).sum + b.sent.length + b.phase.weight

lemma effort_outfitted (k : Kit) : effort (outfitted k) ≤ 1 := by
  cases k <;> simp [outfitted, effort]

lemma effort_set {id : ℕ} {x : WorkerState} (y : WorkerState) (h : b.workers[id]? = some x) :
    ((b.workers.set id y).map effort).sum + effort x = (b.workers.map effort).sum + effort y :=
  sum_map_set effort y h

lemma step_weight (hs : Step s b a b') (ha : a ≠ .cancel) : b'.weight < b.weight := by
  cases hs with
  | @start id h =>
    have hh := effort_set (outfitted (s.kit id)) h
    have ho := effort_outfitted (s.kit id)
    have hw : effort .waiting = 2 := rfl
    simp only [weight, setWorker]
    omega
  | @take id w file jobs h hj =>
    have hh := effort_set (.holding w file) h
    simp only [weight, setWorker, hj, List.length_cons]
    simp only [effort] at hh
    omega
  | @handle id w file h =>
    have hh := effort_set
      (.reporting (w.handle s.disk b.cancelled id file).2 (w.handle s.disk b.cancelled id file).1) h
    simp only [weight, setWorker]
    simp only [effort] at hh
    omega
  | @send id w result h =>
    have hh := effort_set (.free w) h
    simp only [weight, setWorker, List.length_append, List.length_singleton]
    simp only [effort] at hh
    omega
  | @leave id w h hj =>
    have hh := effort_set .gone h
    simp only [weight, setWorker]
    simp only [effort] at hh
    omega
  | drain h => simp [weight, h, Phase.weight]
  | @collect result sent hp h =>
    simp only [weight, receive, h, List.length_cons]
    omega
  | close hp h hw => simp [weight, hp, Phase.weight]
  | cancel => exact absurd rfl ha

lemma exists_ended (s : Setting) (b : Batch) : ∃ more, .cancel ∉ more ∧ Ended s (b.run s more) := by
  induction hn : b.weight using Nat.strong_induction_on generalizing b with
  | _ n ih =>
    by_cases hb : Ended s b
    · exact ⟨[], List.not_mem_nil, hb⟩
    · simp only [Ended, not_forall] at hb
      obtain ⟨a, ha, hs⟩ := hb
      obtain ⟨b', hb'⟩ := Option.ne_none_iff_exists'.mp hs
      have hstep : Step s b a b' := .of_step hb'
      obtain ⟨more, hc, hmore⟩ := ih b'.weight (hn ▸ step_weight hstep ha) b' rfl
      refine ⟨a :: more, ?_, by rwa [run_cons_of_step hstep]⟩
      exact List.not_mem_cons_of_ne_of_not_mem ha.symm hc

structure Sound (files : List ScannedFile) (b : Batch) : Prop where
  started : b.phase ≠ .idle
  closed : b.phase = .done → b.sent = [] ∧ ∀ w ∈ b.workers, w = .gone
  left : .gone ∈ b.workers → b.jobs = []
  staffed : files ≠ [] → b.workers ≠ []
  queue : b.jobs <:+ files

lemma sound_initial (hw : 0 < workers) : Sound files (initial files workers cancelled) := by
  unfold initial
  split
  · rename_i h
    obtain rfl := List.isEmpty_iff.mp h
    exact ⟨by simp, by simp, by simp, by simp, List.suffix_refl _⟩
  · refine ⟨by simp, by simp, by simp [List.mem_replicate], ?_, List.suffix_refl _⟩
    intro _ hn
    rw [List.replicate_eq_nil_iff] at hn
    omega

lemma Sound.not_done (h : Sound files b) {id : ℕ} {x : WorkerState} (hx : b.workers[id]? = some x)
    (hg : x ≠ .gone) : b.phase ≠ .done := by
  intro hd
  exact hg ((h.closed hd).2 x (List.mem_of_getElem? hx))

lemma Sound.setWorker (h : Sound files b) {id : ℕ} {x y : WorkerState} (hx : b.workers[id]? = some x)
    (hg : x ≠ .gone) (hy : y = .gone → b.jobs = []) : Sound files (b.setWorker id y) where
  started := h.started
  closed hd := absurd hd (h.not_done hx hg)
  left hm := by
    rcases List.mem_or_eq_of_mem_set hm with hm | hm
    · exact h.left hm
    · exact hy hm.symm
  staffed hf := by
    intro hn
    rw [setWorker_workers, List.set_eq_nil_iff] at hn
    exact h.staffed hf hn
  queue := h.queue

lemma outfitted_ne_gone {k : Kit} (h : k ≠ .crashed) : outfitted k ≠ .gone := by
  cases k with
  | built registry => simp [outfitted]
  | unavailable => simp [outfitted]
  | crashed => exact absurd rfl h

lemma step_sound (hs : Step s b a b') (hk : ∀ id, id < b.workers.length → s.kit id ≠ .crashed)
    (h : Sound files b) : Sound files b' := by
  cases hs with
  | @start id hw =>
    have hid : id < b.workers.length := (List.getElem?_eq_some_iff.mp hw).1
    exact h.setWorker hw (by simp) (fun hy => absurd hy (outfitted_ne_gone (hk id hid)))
  | @take id w file jobs hw hj =>
    have hset := h.setWorker (y := .holding w file) hw (by simp) (by simp)
    refine ⟨hset.started, hset.closed, fun hm => ?_, hset.staffed, ?_⟩
    · have hn : b.jobs = [] := hset.left hm
      rw [hj] at hn
      cases hn
    · exact (List.suffix_cons file jobs).trans (hj ▸ h.queue)
  | handle hw => exact h.setWorker hw (by simp) (by simp)
  | @send id w result hw =>
    have hset := h.setWorker (y := .free w) hw (by simp) (by simp)
    exact ⟨hset.started, fun hd => absurd hd (h.not_done hw (by simp)), hset.left, hset.staffed, hset.queue⟩
  | leave hw hj => exact h.setWorker hw (by simp) (fun _ => hj)
  | drain hp => exact ⟨by simp, by simp, h.left, h.staffed, h.queue⟩
  | collect hp hs => exact ⟨h.started, by simp [receive, hp], h.left, h.staffed, h.queue⟩
  | close hp hs hw => exact ⟨by simp, fun _ => ⟨hs, hw⟩, h.left, h.staffed, h.queue⟩
  | cancel => exact ⟨h.started, h.closed, h.left, h.staffed, h.queue⟩

lemma step_workers_length (hs : Step s b a b') : b'.workers.length = b.workers.length := by
  cases hs <;> simp [setWorker, receive]

lemma workers_length_initial : (initial files workers cancelled).workers.length ≤ workers := by
  unfold initial
  split <;> simp

lemma run_sound (s : Setting) (files : List ScannedFile) (cancelled : Bool) (actions : List Action)
    (hw : 0 < workers) (hk : ∀ id, id < workers → s.kit id ≠ .crashed) :
    Sound files ((initial files workers cancelled).run s actions) := by
  have hboth : let b := (initial files workers cancelled).run s actions
      b.workers.length ≤ workers ∧ Sound files b := by
    apply run_induction (P := fun b => b.workers.length ≤ workers ∧ Sound files b)
    · exact ⟨workers_length_initial, sound_initial hw⟩
    · rintro a - b b' hs ⟨hl, h⟩
      refine ⟨(step_workers_length hs).trans_le hl, step_sound hs ?_ h⟩
      exact fun id hid => hk id (hid.trans_le hl)
  exact hboth.2

lemma Ended.gone (h : Ended s b) : ∀ w ∈ b.workers, w = .gone := by
  intro w hw
  obtain ⟨id, hid⟩ := List.mem_iff_getElem?.mp hw
  cases w with
  | waiting => exact (h.not_step (by simp) (.start hid)).elim
  | free w =>
    cases hj : b.jobs with
    | nil => exact (h.not_step (by simp) (.leave hid hj)).elim
    | cons file jobs => exact (h.not_step (by simp) (.take hid hj)).elim
  | holding w file => exact (h.not_step (by simp) (.handle hid)).elim
  | reporting w result => exact (h.not_step (by simp) (.send hid)).elim
  | gone => rfl

lemma Ended.done (h : Ended s b) (hb : Sound files b) : b.phase = .done := by
  cases hp : b.phase with
  | idle => exact absurd hp hb.started
  | dispatching => exact (h.not_step (by simp) (.drain hp)).elim
  | draining =>
    cases hs : b.sent with
    | nil => exact (h.not_step (by simp) (.close hp hs h.gone)).elim
    | cons result sent => exact (h.not_step (by simp) (.collect hp hs)).elim
  | done => rfl

lemma Ended.jobs_eq_nil (h : Ended s b) (hb : Sound files b) : b.jobs = [] := by
  by_cases hf : files = []
  · exact List.suffix_nil.mp (hf ▸ hb.queue)
  · obtain ⟨w, hw⟩ := List.exists_mem_of_ne_nil _ (hb.staffed hf)
    exact hb.left (h.gone w hw ▸ hw)

lemma ended_of_done (hb : Sound files b) (hd : b.phase = .done) : Ended s b := by
  obtain ⟨hs, hw⟩ := hb.closed hd
  have hid : ∀ {id : ℕ} {w : WorkerState}, b.workers[id]? = some w → w = .gone :=
    fun h => hw _ (List.mem_of_getElem? h)
  intro a ha
  rw [Option.eq_none_iff_forall_not_mem]
  intro b' hb'
  cases Step.of_step (Option.mem_def.mp hb') with
  | start h => exact absurd (hid h) (by simp)
  | take h _ => exact absurd (hid h) (by simp)
  | handle h => exact absurd (hid h) (by simp)
  | send h => exact absurd (hid h) (by simp)
  | leave h _ => exact absurd (hid h) (by simp)
  | drain hp => exact absurd (hd.symm.trans hp) (by simp)
  | collect hp _ => exact absurd (hd.symm.trans hp) (by simp)
  | close hp _ _ => exact absurd (hd.symm.trans hp) (by simp)
  | cancel => exact absurd rfl ha

end Batch

end SourceAtlas
