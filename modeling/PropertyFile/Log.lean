import PropertyFile.Error
import PropertyFile.Text.Alphanumeric

/-! The log of a load: lines that announce the stages, and notes of what happens inside one. -/

namespace PropertyFile

inductive Level
  | trace
  | debug
  | info
  | success
  | warning
  | error
  | critical
  deriving DecidableEq, Repr

namespace Level

def severity : Level → Nat
  | .trace => 5
  | .debug => 10
  | .info => 20
  | .success => 25
  | .warning => 30
  | .error => 40
  | .critical => 50

def name : Level → Text
  | .trace => "TRACE"
  | .debug => "DEBUG"
  | .info => "INFO"
  | .success => "SUCCESS"
  | .warning => "WARNING"
  | .error => "ERROR"
  | .critical => "CRITICAL"

def all : List Level := [.trace, .debug, .info, .success, .warning, .error, .critical]

def ofName? (t : Text) : Option Level := all.find? fun l => l.name == t

end Level

structure Message where
  level : Level
  text : Text
  deriving DecidableEq, Repr

inductive Note
  | ignoredLine (number : Nat)
  | droppedLine (number : Nat)
  | updatedKey (name : Text)
  | replacedReference (name replacement : Text)
  deriving DecidableEq, Repr

open Text (quoted ofNat)

def Note.message : Note → Message
  | .ignoredLine n => ⟨.trace, "Ignoring line " ++ ofNat n⟩
  | .droppedLine n =>
    ⟨.debug, "Dropping continuation line " ++ ofNat n ++ " without a pending key"⟩
  | .updatedKey name => ⟨.debug, "Updating key " ++ quoted name⟩
  | .replacedReference name replacement =>
    ⟨.trace, "Replacing reference " ++ quoted name ++ " with " ++ quoted replacement⟩

namespace Log

def isTokenChar (c : CodePoint) : Bool := Text.isAlphanumeric c || ("-_.:/" : Text).contains c

def token (value : Text) : Text :=
  let t := Text.trim value
  if t.isEmpty then "none" else t.map fun c => if isTokenChar c then c else '_'

def context (entries : List (Text × Text)) : Text :=
  (Text.sortBy Prod.fst entries).flatMap fun e => " " ++ e.1 ++ "=" ++ token e.2

inductive Event
  | start
  | complete
  | failure
  deriving DecidableEq, Repr

def Event.name : Event → Text
  | .start => "start"
  | .complete => "complete"
  | .failure => "failure"

def Event.level : Event → Level
  | .failure => .error
  | _ => .info

def Event.parts (e : Event) : List (Text × List Text) :=
  [("LoadLogger.log_stage_" ++ e.name, ["self", "stage"]), ("LoadLogger._emit", ["level", "event"])]

def taken? (event : Event) (entries : List (Text × Text)) : Option LogProblem :=
  event.parts.findSome? fun (operation, names) =>
    (entries.find? fun e => names.contains e.1).map fun e => .takenName operation e.1

def phase (stage : Text) (event : Event) (entries : List (Text × Text)) : Message :=
  ⟨event.level, "[phase] level=" ++ event.level.name ++ " stage=" ++ stage ++ " event=" ++
    event.name ++ context entries⟩

def start (stage : Text) (entries : List (Text × Text)) : Message := phase stage .start entries

def complete (stage : Text) (entries : List (Text × Text)) : Message :=
  phase stage .complete entries

def failure (stage kind : Text) : Message := phase stage .failure [("error_type", kind)]

def announced (stage : Text) (event : Event) (entries : List (Text × Text)) :
    Except Error Message :=
  match taken? event entries with
  | some p => .error (.log p)
  | none => .ok (phase stage event entries)

end Log

structure Sink where
  least : Nat
  deriving DecidableEq, Repr

namespace Sink

def ofLevel (l : Level) : Sink := ⟨l.severity⟩

def named (name : Text) : Except Error Sink :=
  match Level.ofName? name with
  | some l => .ok (ofLevel l)
  | none => .error (.log (.unknownLevel name))

def numbered (severity : Int) : Except Error Sink :=
  if severity < 0 then .error (.log (.negativeLevel severity)) else .ok ⟨severity.toNat⟩

def shown (s : Sink) (messages : List Message) : Text :=
  (messages.filter fun m => decide (s.least ≤ m.level.severity)).flatMap fun m => m.text ++ "\n"

end Sink

end PropertyFile
