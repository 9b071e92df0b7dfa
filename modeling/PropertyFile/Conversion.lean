import PropertyFile.Double.Decimal
import PropertyFile.Error
import PropertyFile.Text.Blank

/-! Conversion of a stored text to a typed value. -/

namespace PropertyFile

open Text

inductive Width
  | byte
  | short
  | int
  | long
  deriving DecidableEq, Repr

namespace Width

def bits : Width → Nat
  | .byte => 8
  | .short => 16
  | .int => 32
  | .long => 64

def name : Width → Text
  | .byte => "byte"
  | .short => "short"
  | .int => "int"
  | .long => "long"

def least (w : Width) : Int := -(Nat.pow 2 (w.bits - 1) : Nat)

def greatest (w : Width) : Int := (Nat.pow 2 (w.bits - 1) : Nat) - 1

end Width

namespace Conversion

inductive Fault
  | notInteger (t : Text)
  | malformedInteger (t : Text)
  | outOfRange (t : Text) (w : Width)
  | notNumber (t : Text)
  | malformedNumber (t : Text)
  | notCharacter (t : Text)
  | emptyBoolean
  deriving DecidableEq, Repr

def Fault.message : Fault → Text
  | .notInteger t | .malformedInteger t => quoted t ++ " is not a decimal integer."
  | .outOfRange t w =>
    quoted t ++ " is out of range for " ++ w.name ++ " (" ++ ofInt w.least ++ ".." ++
      ofInt w.greatest ++ ")."
  | .notNumber t | .malformedNumber t => quoted t ++ " is not a floating point number."
  | .notCharacter t => quoted t ++ " is not a single character."
  | .emptyBoolean => "An empty value is not a boolean."

def withSign (negative : Bool) (n : Nat) : Int := if negative then -(n : Int) else n

def decimal? (t : Text) : Option Int :=
  match digits? (signed t).2 with
  | some (d :: ds) =>
    if (d :: ds).length ≤ digitLimit then some (withSign (signed t).1 (number (d :: ds)))
    else none
  | _ => none

def integer (t : Text) : Except Fault Int :=
  if t.isEmpty || !trimmed t || t.contains '_' then .error (.notInteger t)
  else match decimal? t with
    | some n => .ok n
    | none => .error (.malformedInteger t)

def bounded (w : Width) (t : Text) : Except Fault Int :=
  match integer t with
  | .error e => .error e
  | .ok n => if w.least ≤ n ∧ n ≤ w.greatest then .ok n else .error (.outOfRange t w)

def double (t : Text) : Except Fault Double :=
  if t.isEmpty || !trimmed t then .error (.notNumber t)
  else match Double.ofText? t with
    | some x => .ok x
    | none => .error (.malformedNumber t)

def character (t : Text) : Except Fault CodePoint :=
  match t with
  | [c] => .ok c
  | _ => .error (.notCharacter t)

def boolean (t : Text) : Except Fault Bool :=
  if t.isEmpty then .error .emptyBoolean else .ok (lowerAscii (trim t) == ("true" : Text))

def permissive? (t : Text) : Option Bool :=
  let word := lowerAscii (trim t)
  if (["1", "true", "yes", "on"] : List Text).contains word then some true
  else if (["0", "false", "no", "off"] : List Text).contains word then some false
  else none

end Conversion

end PropertyFile
