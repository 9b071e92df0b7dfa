import PropertyFile.Main.Arguments
import PropertyFile.Main.Terminal

/-!
The program: reads the two files that the arguments name, runs the command on them and prints.
-/

namespace PropertyFile.Main

def reason : IO.Error → String
  | .inappropriateType _ _ details => details
  | .permissionDenied _ _ details => details
  | .invalidArgument _ _ details => details
  | .resourceExhausted _ _ details => details
  | .otherError _ details => details
  | e => toString e

def usage : String :=
  "Usage: show CONFIG --schema FILE [--key NAME] [--verbose]\n" ++
    "       check CONFIG --schema FILE [--verbose]"

def find (path : Text) : IO FileState := do
  try
    let bytes ← IO.FS.readBinFile (Path.normal path).toString
    return .content bytes.toList
  catch e =>
    match e with
    | .noFileOrDirectory .. => return .missing
    | e => return .unreadable (reason e)

end PropertyFile.Main

open PropertyFile in
def main (args : List String) : IO UInt32 := do
  match Main.invocation (args.map Text.ofString) with
  | .usage =>
    IO.eprintln Main.usage
    return 2
  | .help =>
    IO.println Main.usage
    return 0
  | .run r =>
    let schema ← Main.find r.schema
    let config ← Main.find r.config
    let (output, _) := Command.perform Main.outside r schema config (.silent [])
    IO.print output.stdout.toString
    IO.eprint output.stderr.toString
    if let some e := output.escaped then IO.eprintln e.message.toString
    return output.exitCode.toUInt32
