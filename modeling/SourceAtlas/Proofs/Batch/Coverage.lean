import SourceAtlas.Proofs.Batch.Ending

namespace SourceAtlas

def Event.progress? : Event → Option (ℕ × ℕ)
  | .progress current total _ => some (current, total)
  | .problem _ _ => none

def Event.problem? : Event → Option Problem
  | .progress _ _ _ => none
  | .problem _ p => some p

def Result.carries (r : Result) : Bool := r.outline.isSome || r.problem.isSome

lemma Result.carries_ofAttempt (path : Path) (attempt : Attempt) : (ofAttempt path attempt).carries = true := by
  cases attempt with
  | returned extraction => cases extraction <;> rfl
  | crashed reason => rfl

lemma Result.path_ofAttempt (path : Path) (attempt : Attempt) : (ofAttempt path attempt).path = path := by
  cases attempt <;> rfl

lemma Worker.handle_cancelled (disk : Disk) (id : ℕ) (w : Worker) (file : ScannedFile) :
    (w.handle disk true id file).1 = .ofProblem (.cancelled file.path) := rfl

lemma Worker.handle_unavailable (disk : Disk) (id : ℕ) {w : Worker} (file : ScannedFile)
    (h : w.registry = none) : (w.handle disk false id file).1 = .ofProblem (missing id file) := by
  simp [handle, h]

lemma Worker.handle_built (disk : Disk) (id : ℕ) {w : Worker} {registry : Registry} (file : ScannedFile)
    (h : w.registry = some registry) :
    (w.handle disk false id file).1 = .ofAttempt file.path (registry.extract disk w.modules file).1 := by
  simp [handle, h]

lemma Worker.handle_cases (disk : Disk) (cancelled : Bool) (id : ℕ) (w : Worker) (file : ScannedFile) :
    (∃ problem, problem.path = file.path ∧ (w.handle disk cancelled id file).1 = .ofProblem problem) ∨
      ∃ attempt, (w.handle disk cancelled id file).1 = .ofAttempt file.path attempt := by
  cases cancelled with
  | true => exact Or.inl ⟨.cancelled file.path, rfl, handle_cancelled disk id w file⟩
  | false =>
    cases hr : w.registry with
    | none => exact Or.inl ⟨missing id file, rfl, handle_unavailable disk id file hr⟩
    | some registry => exact Or.inr ⟨_, handle_built disk id file hr⟩

lemma Worker.handle_path (disk : Disk) (cancelled : Bool) (id : ℕ) (w : Worker) (file : ScannedFile) :
    (w.handle disk cancelled id file).1.path = file.path := by
  rcases handle_cases disk cancelled id w file with ⟨problem, hp, h⟩ | ⟨attempt, h⟩
  · rw [h]
    exact hp
  · rw [h, Result.path_ofAttempt]

lemma Worker.handle_carries (disk : Disk) (cancelled : Bool) (id : ℕ) (w : Worker) (file : ScannedFile) :
    (w.handle disk cancelled id file).1.carries = true := by
  rcases handle_cases disk cancelled id w file with ⟨problem, _, h⟩ | ⟨attempt, h⟩
  · rw [h]
    rfl
  · rw [h, Result.carries_ofAttempt]

namespace Batch

variable {s : Setting} {b b' mid : Batch} {a : Action} {actions first : List Action}
variable {files : List ScannedFile} {workers : ℕ} {cancelled : Bool}

structure Recorded (total : ℕ) (b : Batch) : Prop where
  outlines : b.output.files = b.received.filterMap Result.outline
  problems : b.output.problems = b.received.filterMap Result.problem
  progress : b.output.events.filterMap Event.progress? = (List.range' 1 b.received.length).map (·, total)
  reported : b.output.events.filterMap Event.problem? = b.output.problems

lemma recorded_initial (total : ℕ) : Recorded total (initial files workers cancelled) := by
  unfold initial
  split <;> exact ⟨rfl, rfl, rfl, rfl⟩

lemma Recorded.receive {total : ℕ} (h : Recorded total b) (result : Result) (sent : List Result) :
    Recorded total (b.receive total result sent) where
  outlines := by
    simp only [Batch.receive, Output.add, h.outlines, List.filterMap_append]
    cases hr : result.outline <;> simp [hr]
  problems := by
    simp only [Batch.receive, Output.add, h.problems, List.filterMap_append]
    cases hr : result.problem <;> simp [hr]
  progress := by
    have hp : (result.problem.toList.map (Event.problem result.path)).filterMap Event.progress? = [] := by
      cases result.problem <;> rfl
    simp only [Batch.receive, Output.add, List.filterMap_append, h.progress, List.filterMap_cons,
      Event.progress?, hp, List.length_append, List.length_singleton, List.range'_concat, List.map_append,
      List.map_singleton]
    rw [Nat.one_mul, Nat.add_comm 1]
  reported := by
    have hp : (result.problem.toList.map (Event.problem result.path)).filterMap Event.problem? =
        result.problem.toList := by
      cases result.problem <;> rfl
    simp only [Batch.receive, Output.add, List.filterMap_append, h.reported, List.filterMap_cons,
      Event.problem?, hp]

lemma step_recorded (hs : Step s b a b') (h : Recorded s.total b) : Recorded s.total b' := by
  cases hs with
  | collect hp hs => exact h.receive _ _
  | _ => exact ⟨h.outlines, h.problems, h.progress, h.reported⟩

lemma run_recorded (s : Setting) (files : List ScannedFile) (workers : ℕ) (cancelled : Bool)
    (actions : List Action) : Recorded s.total ((initial files workers cancelled).run s actions) :=
  run_induction (recorded_initial s.total) fun _ _ _ _ hs h => step_recorded hs h

lemma Ended.received {α : Type} {g : ScannedFile → α} {r : Result → α} (h : Ended s b)
    (hb : Sound files b) : (b.received.map r : Multiset α) = b.ledger g r := by
  obtain ⟨hs, hw⟩ := hb.closed (h.done hb)
  exact (ledger_of_gone hw hs (h.jobs_eq_nil hb)).symm

lemma Ended.received_perm {α : Type} {g : ScannedFile → α} {r : Result → α}
    (hend : Ended s ((initial files workers cancelled).run s actions))
    (hb : Sound files ((initial files workers cancelled).run s actions))
    (hw : ∀ (cancelled : Bool) (id : ℕ) (w : Worker) (file : ScannedFile),
      r (w.handle s.disk cancelled id file).1 = g file) :
    (((initial files workers cancelled).run s actions).received.map r).Perm (files.map g) := by
  have hrun : ((initial files workers cancelled).run s actions).ledger g r = (files.map g : Multiset α) :=
    run_induction (P := fun b => b.ledger g r = (files.map g : Multiset α))
      (ledger_initial g r files workers cancelled)
      fun _ _ b _ hs h => (step_ledger hs fun id w file _ => hw b.cancelled id w file).trans h
  exact Multiset.coe_eq_coe.mp ((hend.received hb).trans hrun)

lemma step_cancelled (hs : Step s b a b') (h : b.cancelled = true) : b'.cancelled = true := by
  cases hs with
  | cancel => rfl
  | _ => exact h

def dropped (file : ScannedFile) : Result := .ofProblem (.cancelled file.path)

lemma run_ledger_cancelled (h : b.cancelled = true) :
    (b.run s actions).ledger dropped id = b.ledger dropped id := by
  have hboth : (b.run s actions).cancelled = true ∧
      (b.run s actions).ledger dropped id = b.ledger dropped id := by
    apply run_induction (P := fun c => c.cancelled = true ∧ c.ledger dropped id = b.ledger dropped id)
    · exact ⟨h, rfl⟩
    · rintro a - c c' hs ⟨hc, hl⟩
      refine ⟨step_cancelled hs hc, (step_ledger hs ?_).trans hl⟩
      intro i w file _
      rw [hc, Worker.handle_cancelled]
      rfl
  exact hboth.2

/-- The files in the queue at the moment `mid` have one result each at the end, namely that they were
cancelled; the other results are those of the files that were taken before. -/
def CancelledSince (files : List ScannedFile) (mid b : Batch) : Prop :=
  ∃ taken earlier, files = taken ++ mid.jobs ∧
    (earlier.map Result.path).Perm (taken.map ScannedFile.path) ∧
      b.received.Perm (earlier ++ mid.jobs.map dropped)

lemma cancelledSince (hc : mid.cancelled = true) (hq : mid.jobs <:+ files) (hb : Sound files (mid.run s actions))
    (hend : Ended s (mid.run s actions))
    (hp : ((mid.run s actions).received.map Result.path).Perm (files.map ScannedFile.path)) :
    CancelledSince files mid (mid.run s actions) := by
  obtain ⟨taken, rfl⟩ := hq
  obtain ⟨earlier, he⟩ := Quot.exists_rep
    ((mid.received.map id : Multiset Result) + (mid.sent.map id : Multiset Result) +
      (mid.workers.map (share dropped id)).sum)
  have hl : ((mid.run s actions).received : Multiset Result) =
      earlier + (mid.jobs.map dropped : Multiset Result) := by
    have hh := (hend.received (g := dropped) (r := id) hb).trans (run_ledger_cancelled hc)
    rw [List.map_id] at hh
    rw [hh, ledger]
    exact congrArg (· + _) he.symm
  have hr : (mid.run s actions).received.Perm (earlier ++ mid.jobs.map dropped) := Multiset.coe_eq_coe.mp hl
  refine ⟨taken, earlier, rfl, ?_, hr⟩
  have hd : (mid.jobs.map dropped).map Result.path = mid.jobs.map ScannedFile.path := by
    rw [List.map_map]
    rfl
  have hh := (hr.map Result.path).symm.trans hp
  rw [List.map_append, List.map_append, hd] at hh
  exact (List.perm_append_right_iff _).mp hh

structure Accounted (files : List ScannedFile) (b : Batch) : Prop where
  phase : b.phase = .done
  count : b.received.length = files.length
  paths : (b.received.map Result.path).Perm (files.map ScannedFile.path)
  carried : ∀ r ∈ b.received, r.outline.isSome ∨ r.problem.isSome
  outlines : b.output.files = b.received.filterMap Result.outline
  problems : b.output.problems = b.received.filterMap Result.problem
  progress : b.output.events.filterMap Event.progress? =
    (List.range' 1 files.length).map (·, files.length)
  reported : b.output.events.filterMap Event.problem? = b.output.problems

lemma accounted (hs : s.total = files.length) (hw : 0 < workers)
    (hk : ∀ id, id < workers → s.kit id ≠ .crashed)
    (hend : Ended s ((initial files workers cancelled).run s actions)) :
    Accounted files ((initial files workers cancelled).run s actions) := by
  have hb := run_sound s files cancelled actions hw hk
  have hr := run_recorded s files workers cancelled actions
  have hp := hend.received_perm hb (r := Result.path) (g := ScannedFile.path)
    (fun c id w file => Worker.handle_path s.disk c id w file)
  have hc := hend.received_perm hb (r := Result.carries) (g := fun _ => true)
    (fun c id w file => Worker.handle_carries s.disk c id w file)
  have hn : ((initial files workers cancelled).run s actions).received.length = files.length := by
    simpa using hp.length_eq
  refine ⟨hend.done hb, hn, hp, ?_, hr.outlines, hr.problems, ?_, hr.reported⟩
  · intro r hmem
    have ht : r.carries ∈ files.map fun _ => true := hc.mem_iff.mp (List.mem_map_of_mem hmem)
    obtain ⟨_, _, ht⟩ := List.mem_map.mp ht
    simpa [Result.carries] using ht.symm
  · rw [hr.progress, hn, hs]

/-- Let a batch run in any order of steps, with any number of workers, of which each has built its extractors
or failed to, and with a cancellation at any moment. It can always be brought to its end, and then every file
is accounted for; files that were taken from the queue after the cancellation are reported as cancelled. -/
theorem every_file_is_accounted_for (disk : Disk) (kit : ℕ → Kit) (files : List ScannedFile) (workers : ℕ)
    (cancelled : Bool) (hw : 0 < workers) (hk : ∀ id, id < workers → kit id ≠ .crashed)
    (actions : List Action) :
    let s : Setting := ⟨disk, files.length, kit⟩
    let start := initial files workers cancelled
    (∃ more, Ended s (start.run s (actions ++ more))) ∧
      (Ended s (start.run s actions) →
        Accounted files (start.run s actions) ∧
          ∀ first rest, actions = first ++ rest → (start.run s first).cancelled = true →
            CancelledSince files (start.run s first) (start.run s actions)) := by
  intro s start
  refine ⟨?_, fun hend => ?_⟩
  · obtain ⟨more, _, hmore⟩ := exists_ended s (start.run s actions)
    exact ⟨more, by rwa [run_append]⟩
  · have hacc := accounted (s := s) rfl hw hk hend
    refine ⟨hacc, ?_⟩
    rintro first rest rfl hc
    have hmid := run_sound s files cancelled first hw hk
    have hb := run_sound s files cancelled (first ++ rest) hw hk
    rw [run_append] at hend hb ⊢
    exact cancelledSince hc hmid.queue hb hend (by rw [← run_append]; exact hacc.paths)

theorem every_file_is_accounted_for_interleaved :
    let file : ScannedFile := ⟨⟨"a.py"⟩, ⟨"a.py"⟩, "python"⟩
    let crashing : Extractor := ⟨[.python], fun _ modules _ => (.crashed none, modules)⟩
    let kit : ℕ → Kit := fun id => if id = 0 then .built ⟨[crashing]⟩ else .unavailable
    let s : Setting := ⟨{}, 3, kit⟩
    let start := initial [file, file, file] 2 false
    let first : List Action :=
      [.start 0, .start 1, .take 0, .take 1, .drain, .handle 1, .handle 0, .send 1, .cancel]
    let rest : List Action :=
      [.take 1, .send 0, .collect, .handle 1, .leave 0, .send 1, .collect, .leave 1, .collect, .close]
    Accounted [file, file, file] (start.run s (first ++ rest)) ∧
      CancelledSince [file, file, file] (start.run s first) (start.run s (first ++ rest)) := by
  intro file crashing kit s start first rest
  have hk : ∀ id, id < 2 → kit id ≠ .crashed := by
    intro id _
    by_cases h : id = 0 <;> simp [kit, h]
  have hend : Ended s (start.run s (first ++ rest)) :=
    ended_of_done (run_sound s [file, file, file] false (first ++ rest) (by decide) hk) (by decide +kernel)
  have h := (every_file_is_accounted_for {} kit [file, file, file] 2 false (by decide) hk (first ++ rest)).2 hend
  exact ⟨h.1, h.2 first rest rfl (by decide +kernel)⟩

end Batch

end SourceAtlas
