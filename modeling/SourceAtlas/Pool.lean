import SourceAtlas.Pairing
import SourceAtlas.Pool.Batch

namespace SourceAtlas

def maxWorkers : Nat := 16

/-- The number of workers for a batch. Unless it is configured, it depends on the size of the batch and the
number of processors. It is at least one and at most the number of files. -/
def workerCount (files configured processors : Nat) : Nat :=
  let wanted :=
    if 0 < configured then configured
    else if files < 10 then min processors 2
    else if files < 50 then max (processors / 2) 1
    else processors
  max (min (min wanted maxWorkers) files) 1

/-- What is configured: the number of workers, zero for an automatic choice; whether files are paired; and,
if the pool can be cancelled, whether it is. -/
structure Options where
  workers : Nat := 0
  resolvePairs : Bool := true
  cancelled : Option Bool := none

structure Pool where
  options : Options := {}
  hasReporter : Bool := false
  kit : Nat → Kit := fun _ => .built .full
  phase : Phase := .idle

namespace Pool

def cancel (p : Pool) : Pool :=
  { p with options := { p.options with cancelled := p.options.cancelled.map fun _ => true } }

def isCancelled (p : Pool) : Bool := p.options.cancelled.getD false

def work (p : Pool) (disk : Disk) (processors : Nat) (files : List ScannedFile) : Batch :=
  let workers := workerCount files.length p.options.workers processors
  (Batch.initial files workers p.isCancelled).run ⟨disk, files.length, p.kit⟩
    (Action.sequence workers files.length)

def link (p : Pool) (disk : Disk) (files : List ScannedFile) (out : Output) : Output :=
  if p.options.resolvePairs then { out with files := Pairing.resolve disk files out.files } else out

def process (p : Pool) (disk : Disk) (processors : Nat) (files : List ScannedFile) : Output × Pool :=
  let batch := p.work disk processors files
  (p.link disk files batch.output, { p with phase := batch.phase })

def describeBool (b : Bool) : String := if b then "true" else "false"

def describeOptions (o : Options) : String :=
  let cancel :=
    match o.cancelled with
    | none => "None"
    | some cancelled => "Some(CancellationToken(" ++ describeBool cancelled ++ "))"
  "PoolOptions \x7b workers: " ++ toString o.workers ++ ", resolve_pairs: " ++ describeBool o.resolvePairs ++
    ", cancel: " ++ cancel ++ " \x7d"

def describe (p : Pool) : String :=
  "ParserPool \x7b options: " ++ describeOptions p.options ++ ", has_reporter: " ++
    describeBool p.hasReporter ++ ", state: " ++ p.phase.title ++ ", .. \x7d"

end Pool

end SourceAtlas
