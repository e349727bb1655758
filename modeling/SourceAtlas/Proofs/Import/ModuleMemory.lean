import Mathlib.Data.List.Induction
import Mathlib.Tactic.Lemma
import SourceAtlas.Import.GoModules

namespace SourceAtlas

namespace Path

variable {directory above : List Component}

end Path

namespace GoModules

inductive Declares (disk : Disk) (directory : List Path.Component) (name : String) : Prop
  | intro {f : StoredFile} {text : String} (hr : disk.read (goModPath directory) = .ok f)
      (ht : f.content.decode? = some text) (hd : declaredModule? text = some name)

section

variable {disk : Disk} {directory : List Path.Component} {name : String}

end

inductive Event where
  | write (path : Path) (file : StoredFile)
  | remove (path : Path)
  | ask (file : Path)

namespace Event

/-- The disk after an event. A write that is refused changes nothing. -/
def diskAfter (disk : Disk) : Event → Disk
  | .write path file => (disk.write? path file).getD disk
  | .remove path => disk.remove path
  | .ask _ => disk

end Event

def diskAfter (disk : Disk) (events : List Event) : Disk := events.foldl Event.diskAfter disk

structure Session where
  disk : Disk
  modules : GoModules := {}

namespace Session

def answer (s : Session) (file : Path) : Option String := (s.modules.moduleFor s.disk file).1

def step (s : Session) (e : Event) : Session where
  disk := e.diskAfter s.disk
  modules :=
    match e with
    | .ask file => (s.modules.moduleFor s.disk file).2
    | _ => s.modules

def run (s : Session) (events : List Event) : Session := events.foldl step s

end Session

variable {modules : GoModules} {disk : Disk} {directory : List Path.Component} {file : Path} {s : Session}
  {events : List Event}

end GoModules

end SourceAtlas
