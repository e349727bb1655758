import SourceAtlas.Registry

/-! One batch of files, worked off by several workers, whose steps interleave freely until it is done or cancelled. -/

namespace SourceAtlas

inductive Phase where
  | idle
  | dispatching
  | draining
  | done
  deriving DecidableEq

def Phase.title : Phase → String
  | .idle => "Idle"
  | .dispatching => "Dispatching"
  | .draining => "Draining"
  | .done => "Done"

inductive Kit where
  | built (registry : Registry)
  | unavailable
  | crashed

structure Worker where
  registry : Option Registry
  modules : GoModules := {}

structure Result where
  path : Path
  outline : Option Outline
  problem : Option Problem

inductive WorkerState where
  | waiting
  | free (worker : Worker)
  /-- A file is taken from the queue; whether the batch is cancelled was not looked at yet. -/
  | holding (worker : Worker) (file : ScannedFile)
  | reporting (worker : Worker) (result : Result)
  | gone

inductive Event where
  | progress (current total : Nat) (path : Path)
  | problem (path : Path) (problem : Problem)

structure Output where
  files : List Outline := []
  problems : List Problem := []
  events : List Event := []

structure Setting where
  disk : Disk
  total : Nat
  kit : Nat → Kit

structure Batch where
  jobs : List ScannedFile
  workers : List WorkerState
  sent : List Result := []
  received : List Result := []
  cancelled : Bool := false
  phase : Phase := .dispatching
  output : Output := {}

inductive Action where
  | start (id : Nat)
  | take (id : Nat)
  | handle (id : Nat)
  | send (id : Nat)
  | leave (id : Nat)
  | drain
  | collect
  /-- All workers have left, and all that they sent is collected. -/
  | close
  | cancel

namespace Result

def ofAttempt (path : Path) : Attempt → Result
  | .returned extraction => ⟨path, extraction.outline?, extraction.problem?⟩
  | .crashed reason =>
    ⟨path, none, some (.parse path ("extractor panicked: " ++ reason.getD "unknown panic"))⟩

def ofProblem (problem : Problem) : Result := ⟨problem.path, none, some problem⟩

end Result

namespace Worker

def missing (id : Nat) (file : ScannedFile) : Problem :=
  .parse file.path ("worker " ++ toString id ++ ": failed to create extractors")

def handle (disk : Disk) (cancelled : Bool) (id : Nat) (w : Worker) (file : ScannedFile) : Result × Worker :=
  if cancelled then (.ofProblem (.cancelled file.path), w)
  else
    match w.registry with
    | none => (.ofProblem (missing id file), w)
    | some registry =>
      let (attempt, modules) := registry.extract disk w.modules file
      (.ofAttempt file.path attempt, { w with modules })

end Worker

def WorkerState.isGone : WorkerState → Bool
  | .gone => true
  | _ => false

def Output.add (out : Output) (current total : Nat) (r : Result) : Output where
  files := out.files ++ r.outline.toList
  problems := out.problems ++ r.problem.toList
  events := out.events ++ .progress current total r.path :: r.problem.toList.map (.problem r.path)

namespace Batch

/-- A batch before its first step. A batch without files is done at once. -/
def initial (files : List ScannedFile) (workers : Nat) (cancelled : Bool) : Batch :=
  if files.isEmpty then { jobs := [], workers := [], cancelled, phase := .done }
  else { jobs := files, workers := List.replicate workers .waiting, cancelled }

def setWorker (b : Batch) (id : Nat) (state : WorkerState) : Batch :=
  { b with workers := b.workers.set id state }

def outfitted : Kit → WorkerState
  | .built registry => .free { registry := some registry }
  | .unavailable => .free { registry := none }
  | .crashed => .gone

def receive (b : Batch) (total : Nat) (result : Result) (sent : List Result) : Batch :=
  { b with
    sent
    received := b.received ++ [result]
    output := b.output.add (b.received.length + 1) total result }

def step (s : Setting) (b : Batch) : Action → Option Batch
  | .start id =>
    match b.workers[id]? with
    | some .waiting => some (b.setWorker id (outfitted (s.kit id)))
    | _ => none
  | .take id =>
    match b.workers[id]?, b.jobs with
    | some (.free w), file :: jobs => some { b.setWorker id (.holding w file) with jobs }
    | _, _ => none
  | .handle id =>
    match b.workers[id]? with
    | some (.holding w file) =>
      let (result, w) := w.handle s.disk b.cancelled id file
      some (b.setWorker id (.reporting w result))
    | _ => none
  | .send id =>
    match b.workers[id]? with
    | some (.reporting w result) => some { b.setWorker id (.free w) with sent := b.sent ++ [result] }
    | _ => none
  | .leave id =>
    match b.workers[id]?, b.jobs with
    | some (.free _), [] => some (b.setWorker id .gone)
    | _, _ => none
  | .drain => if b.phase = .dispatching then some { b with phase := .draining } else none
  | .collect =>
    match b.phase, b.sent with
    | .draining, result :: sent => some (b.receive s.total result sent)
    | _, _ => none
  | .close =>
    if b.phase = .draining && b.sent.isEmpty && b.workers.all WorkerState.isGone then
      some { b with phase := .done }
    else none
  | .cancel => some { b with cancelled := true }

/-- The batch after actions, where those that are not possible are left out. -/
def run (s : Setting) (b : Batch) (actions : List Action) : Batch :=
  actions.foldl (fun b action => (b.step s action).getD b) b

end Batch

namespace Action

def turn (files id : Nat) : List Action :=
  .start id :: (List.replicate files [.take id, .handle id, .send id, .collect]).flatten ++ [.leave id]

def sequence (workers files : Nat) : List Action :=
  .drain :: (List.range workers).flatMap (turn files) ++ [.close]

end Action

end SourceAtlas
