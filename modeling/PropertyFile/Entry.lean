import PropertyFile.Store
import PropertyFile.Text.Lines

/-! The lines of a property file: an entry begins with a line that holds `=` and is stored when the
next one begins or the lines end. -/

namespace PropertyFile

structure Entry where
  name : Text
  value : Text
  deriving DecidableEq, Repr

def Entry.extend (e : Entry) (line : Text) : Entry := { e with value := e.value ++ "\n" ++ line }

inductive Line
  | ignored
  | continuation (t : Text)
  | malformed (t : Text)
  | entry (e : Entry)
  deriving DecidableEq, Repr

namespace Line

def sides (t : Text) : Text × Text := (Text.before '=' t, Text.after '=' t)

def ofTrimmed (t : Text) : Line :=
  if t.isEmpty || t.head? == some '#' then .ignored
  else if !t.contains '=' then .continuation t
  else if (sides t).2.contains '=' || Text.blank (sides t).1 then .malformed t
  else .entry ⟨Text.trim (sides t).1, Text.trim (sides t).2⟩

def ofText (t : Text) : Line := ofTrimmed (Text.trim t)

end Line

namespace Store

def flush (r : Registry) (s : Store) : Option Entry → Change
  | none => s.done
  | some e => setUnder r s (.name e.name) e.value

/-- Reads lines from the given line number on, with the entry not yet ended. An error behind the
last line leaves that entry out. -/
def readFrom (r : Registry) (broken : Option Error) (number : Nat) (pending : Option Entry)
    (s : Store) : List Text → Change
  | [] =>
    match broken with
    | none => flush r s pending
    | some e => s.failed e
  | l :: ls =>
    match Line.ofText l with
    | .ignored => (readFrom r broken (number + 1) pending s ls).noting (.ignoredLine number)
    | .continuation t =>
      match pending with
      | none => (readFrom r broken (number + 1) none s ls).noting (.droppedLine number)
      | some e => readFrom r broken (number + 1) (some (e.extend t)) s ls
    | .malformed t => s.failed (ConfigError.malformedLine number t)
    | .entry e => (flush r s pending).andThen fun s => readFrom r broken (number + 1) (some e) s ls

def readLinesUnder (r : Registry) (s : Store) (ls : List Text) : Change :=
  readFrom r none 1 none s ls

def readLines (s : Store) (ls : List Text) : Change := readLinesUnder s.registry s ls

def readBroken (s : Store) (ls : List Text) (e : Error) : Change :=
  readFrom s.registry (some e) 1 none s ls

def readText (s : Store) (t : Text) : Change := s.readLines (Text.lines Text.isBreak t)

def readFile (s : Store) (t : Text) : Change := s.readLines (Text.lines Text.isFileBreak t)

end Store

end PropertyFile
