import PropertyFile.Listing
import PropertyFile.Load
import PropertyFile.SchemaFile

/-! The commands `show` and `check`, as they act on a console. -/

namespace PropertyFile.Command

inductive Action
  | show (key : Option Text)
  | check
  deriving DecidableEq, Repr

namespace Action

def name : Action → Text
  | .show _ => "show"
  | .check => "check"

def key? : Action → Option Text
  | .show key => key
  | .check => none

end Action

structure Request where
  action : Action
  config : Text
  schema : Text
  verbose : Bool
  deriving DecidableEq, Repr

/-- What a command is given: the reader of schema files, what becomes of a line that is printed on
either output, unless it cannot be written there, and what the log writes of a message. -/
structure Outside where
  decode : Decoder
  print : Text → Except Error Text
  printError : Text → Except Error Text
  handler : Message → Text

structure Console where
  enabled : Bool
  handlers : List (Message → Text)
  stdout : Text
  stderr : Text

namespace Console

def silent (handlers : List (Message → Text)) : Console := ⟨false, handlers, [], []⟩

def opened (c : Console) (handler : Message → Text) : Console :=
  { c with enabled := true, handlers := [handler] }

def closed (c : Console) : Console := { c with enabled := false, handlers := [] }

def heard (c : Console) (messages : List Message) : Text :=
  if c.enabled then messages.flatMap fun m => c.handlers.flatMap fun h => h m else []

def write (c : Console) (t : Text) : Console := { c with stdout := c.stdout ++ t }

def writeError (c : Console) (t : Text) : Console := { c with stderr := c.stderr ++ t }

end Console

inductive Stop
  | exit (code : Nat)
  | raised (e : Error)

abbrev Run := EStateM Stop Console

namespace Run

variable {α : Type}

def attempt : Except Error α → Run α
  | .ok a => pure a
  | .error e => throw (.raised e)

def emit (messages : List Message) : Run Unit := modify fun c => c.writeError (c.heard messages)

def echo (o : Outside) (t : Text) : Run Unit := do
  let line ← attempt (o.print t)
  modify (·.write line)

def echoError (o : Outside) (t : Text) : Run Unit := do
  let line ← attempt (o.printError t)
  modify (·.writeError line)

def logging (o : Outside) (verbose : Bool) (body : Run α) : Run α :=
  if verbose then do
    modify (·.opened o.handler)
    try body
    finally modify Console.closed
  else body

end Run

open Run

def diagnosis (command : Text) : Error → List Text
  | .config c =>
    (command ++ " failed at stage " ++ Text.quoted c.stage.name ++ ": " ++ c.message) ::
      (c.hint.map fun hint => ("Hint: " : Text) ++ hint).toList
  | e => [command ++ " failed: " ++ e.message]

def diagnose {α : Type} (o : Outside) (command : Text) (e : Error) : Run α := do
  (diagnosis command e).forM (echoError o)
  throw (.exit 1)

def load (decode : Decoder) (r : Request) (schema config : FileState) : Logged Store :=
  match SchemaFile.read decode r.schema schema with
  | .error e => ⟨[], .error e⟩
  | .ok registry => Load.run (.registry registry) r.config config

def defaultNotes (s : Store) (key : Text) : List Note :=
  match s.registry.find? key, s.values.find? key with
  | none, _ => []
  | some _, some (_ :: _) => []
  | some d, _ =>
    Store.replacementNotes (resolve (Store.visible s.registry s.values) none d.default)

def get (s : Store) (key : Text) : Run Text := do
  emit ((defaultNotes s key).map Note.message)
  attempt (s.get (.name key))

def fetch (decode : Decoder) (r : Request) (schema config : FileState) :
    Run (Store × Option Text) := do
  let l := load decode r schema config
  emit l.log
  let s ← attempt l.outcome
  let value ← r.action.key?.mapM (get s)
  return (s, value)

def loading (o : Outside) (r : Request) (schema config : FileState) : Run (Store × Option Text) :=
  try fetch o.decode r schema config
  catch
    | .raised e => diagnose o r.action.name e
    | stop => throw stop

def row (name value : Text) : Text := name ++ " = " ++ Listing.indented value

def summary (r : Request) (s : Store) : Text :=
  "OK: " ++ Text.ofNat s.size ++ " key(s) loaded from " ++ Text.quoted (Path.normal r.config) ++ "."

def listing (o : Outside) (s : Store) : Run Unit :=
  (Text.sorted s.registry.names).forM fun name => do
    let value ← get s name
    echo o (row name value)

def printing (o : Outside) (r : Request) (s : Store) (value : Option Text) : Run Unit :=
  match value, r.action with
  | some value, _ => echo o (Listing.indented value)
  | none, .show _ => listing o s
  | none, .check => echo o (summary r s)

def run (o : Outside) (r : Request) (schema config : FileState) : Run Unit := do
  let (s, value) ← logging o r.verbose (loading o r schema config)
  printing o r s value

structure Output where
  exitCode : Nat
  stdout : Text
  stderr : Text
  escaped : Option Error
  deriving DecidableEq, Repr

def perform (o : Outside) (r : Request) (schema config : FileState) (c : Console) :
    Output × Console :=
  match run o r schema config c with
  | .ok _ d => (⟨0, d.stdout, d.stderr, none⟩, d)
  | .error (.exit code) d => (⟨code, d.stdout, d.stderr, none⟩, d)
  | .error (.raised e) d => (⟨1, d.stdout, d.stderr, some e⟩, d)

end PropertyFile.Command
