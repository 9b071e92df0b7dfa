import PropertyFile.Command
import PropertyFile.Yaml

/-! The outside that the program runs with: a decoder of YAML, two outputs that are no terminal, and
a log of the phases. -/

namespace PropertyFile.Main

def endOfControl? : Text → Option Nat
  | [] => none
  | c :: t =>
    if c.isAlpha then some 1
    else if c.isDigit || c == ';' || c == '?' then (endOfControl? t).map (· + 1)
    else none

def withoutControlsFrom : Nat → Text → Text
  | _, [] => []
  | skip + 1, _ :: t => withoutControlsFrom skip t
  | 0, c :: t =>
    match c, t with
    | .char '\x1b', .char '[' :: u =>
      match endOfControl? u with
      | some n => withoutControlsFrom (n + 1) t
      | none => c :: withoutControlsFrom 0 t
    | _, _ => c :: withoutControlsFrom 0 t

def line (t : Text) : Text := withoutControlsFrom 0 (t ++ "\n")

def print (t : Text) : Except Error Text :=
  match Utf8.encodingFault? (fun _ => false) (line t) with
  | some f => .error (.unencodable f)
  | none => .ok (line t)

def printError (t : Text) : Except Error Text :=
  .ok ((line t).flatMap fun c => if c.isHalf then "\\u" ++ Text.hex 4 c.toNat else [c])

def outside : Command.Outside :=
  ⟨Yaml.decode, print, printError, fun m => (Sink.ofLevel .info).shown [m]⟩

end PropertyFile.Main
