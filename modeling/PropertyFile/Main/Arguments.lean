import PropertyFile.Command

/-! The arguments of the command line: a command, a property file, and options in any order around
it. -/

namespace PropertyFile.Main

inductive Invocation
  | usage
  | help
  | run (r : Command.Request)
  deriving DecidableEq, Repr

structure Given where
  files : List Text
  values : Index Text
  flags : List Text

def isOption : Text → Bool
  | .char '-' :: _ :: _ => true
  | _ => false

def name (argument : Text) : Text := Text.before '=' argument

def value? (argument : Text) : Option Text :=
  if argument.contains '=' then some (Text.after '=' argument) else none

def sort (valued flags : List Text) (given : Given) : List Text → Option Given
  | [] => some given
  | a :: as =>
    if a = "--" then some { given with files := given.files ++ as }
    else if !isOption a then sort valued flags { given with files := given.files ++ [a] } as
    else if valued.contains (name a) then
      match value? a with
      | some v => sort valued flags { given with values := (name a, v) :: given.values } as
      | none =>
        match as with
        | v :: as => sort valued flags { given with values := (name a, v) :: given.values } as
        | [] => none
    else if flags.contains a then sort valued flags { given with flags := a :: given.flags } as
    else none

def request (action : Given → Command.Action) (valued arguments : List Text) : Invocation :=
  match sort valued ["--verbose", "--help"] ⟨[], [], []⟩ arguments with
  | none => .usage
  | some given =>
    if given.flags.contains "--help" then .help
    else match given.files, given.values.find? "--schema" with
      | [config], some schema =>
        .run ⟨action given, config, schema, given.flags.contains "--verbose"⟩
      | _, _ => .usage

def command : List Text → Invocation
  | [] => .usage
  | c :: arguments =>
    if c = "show" then
      request (fun given => .show (given.values.find? "--key")) ["--schema", "--key"] arguments
    else if c = "check" then request (fun _ => .check) ["--schema"] arguments
    else .usage

def invocation (arguments : List Text) : Invocation :=
  let front := arguments.takeWhile fun a => isOption a && a != ("--" : Text)
  if arguments.any (·.contains '\x00') || front.any (· != ("--help" : Text)) then .usage
  else if !front.isEmpty then .help
  else command (if arguments.head? = some "--" then arguments.drop 1 else arguments)

end PropertyFile.Main
