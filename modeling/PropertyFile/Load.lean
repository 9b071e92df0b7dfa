import PropertyFile.Block
import PropertyFile.Entry
import PropertyFile.File

/-! Loading a property file in four stages, of which the first that fails ends the load. -/

namespace PropertyFile

structure Logged (α : Type) where
  log : List Message
  outcome : Except Error α

namespace Logged

variable {α β : Type}

def bind (x : Logged α) (f : α → Logged β) : Logged β :=
  match x.outcome with
  | .ok a => ⟨x.log ++ (f a).log, (f a).outcome⟩
  | .error e => ⟨x.log, .error e⟩

end Logged

def Change.outcome (c : Change) : Except Error Store :=
  match c.failure with
  | some e => .error e
  | none => .ok c.store

namespace Load

variable {α : Type}

def ending (stage : Stage) : Except Error α → List Message
  | .ok _ => [Log.complete stage.name []]
  | .error (.config e) => [Log.failure stage.name e.kind]
  | .error _ => []

def staged (stage : Stage) (context : List (Text × Text)) (notes : List Note)
    (outcome : Except Error α) : Logged α :=
  ⟨Log.start stage.name context :: (notes.map Note.message ++ ending stage outcome), outcome⟩

def readFile (r : Registry) (path : Text) : FileState → Change
  | .missing => (Store.empty r).failed (ConfigError.fileMissing path)
  | .unreadable reason => (Store.empty r).failed (ConfigError.fileUnreadable path reason)
  | .content bytes =>
    match Utf8.decode bytes with
    | .ok t => (Store.empty r).readFile t
    | .error f =>
      (Store.empty r).readBroken (Block.linesBefore f bytes)
        (ConfigError.fileUndecodable path f.reason)

def read (r : Registry) (path : Text) (file : FileState) : Change :=
  match Path.fault? (Path.normal path) with
  | some e => (Store.empty r).failed e
  | none => readFile r (Path.normal path) file

def run (source : SchemaSource) (path : Text) (file : FileState) : Logged Store :=
  (staged .schema [] [] (Registry.ofSource source)).bind fun r =>
  let c := read r path file
  (staged .read [("path", Path.normal path)] c.notes c.outcome).bind fun s =>
  (staged .validate [] [] (s.validate r)).bind fun _ =>
  let d := s.resolveAll
  staged .substitute [("keys", Text.ofNat s.size)] d.notes d.outcome

end Load

end PropertyFile
