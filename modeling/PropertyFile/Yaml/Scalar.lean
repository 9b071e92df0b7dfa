import PropertyFile.Payload
import PropertyFile.Text.Fields

/-! What a plain YAML scalar is, by its spelling. -/

namespace PropertyFile.Yaml

inductive Fault
  | notYaml
  | tooLong (digits : Nat)
  | noDigits (base : Nat)
  | tooManyParts
  | noCodePoint
  | beyondWords
  deriving DecidableEq, Repr

namespace Scalar

open Text (signed number)

def booleanWords : List (Text × Bool) :=
  [("yes", true), ("Yes", true), ("YES", true), ("no", false), ("No", false), ("NO", false),
    ("true", true), ("True", true), ("TRUE", true), ("false", false), ("False", false),
    ("FALSE", false), ("on", true), ("On", true), ("ON", true), ("off", false), ("Off", false),
    ("OFF", false)]

def nullWords : List Text := ["", "~", "null", "Null", "NULL"]

def infinityWords : List Text := [".inf", ".Inf", ".INF"]

def nanWords : List Text := [".nan", ".NaN", ".NAN"]

def isSpaced (c : CodePoint) : Bool := c.isDigit || c == '_'

def isWhole : Text → Bool
  | c :: t => c.isDigit && t.all isSpaced
  | [] => false

def isExponent : Text → Bool
  | [] => true
  | e :: s :: c :: t =>
    (e == 'e' || e == 'E') && (s == '+' || s == '-') && (c :: t).all CodePoint.isDigit
  | _ => false

def isMinute : Text → Bool
  | [c] => c.isDigit
  | [c, d] => c.isWithin '0' '5' && d.isDigit
  | _ => false

def isSexagesimal (t : Text) : Bool :=
  match Text.pieces [':'] t with
  | first :: m :: ms => isWhole first && (m :: ms).all isMinute
  | _ => false

def beforePoint (t : Text) : Text := Text.before '.' t

def afterPoint (t : Text) : Text := Text.after '.' t

def isPointed (t : Text) : Bool :=
  t.contains '.' && isWhole (beforePoint t) && isExponent ((afterPoint t).dropWhile isSpaced)

def isFraction (t : Text) : Bool :=
  t.head? == some '.' && isWhole ((t.drop 1).takeWhile isSpaced) &&
    isExponent ((t.drop 1).dropWhile isSpaced)

def isSexagesimalPointed (t : Text) : Bool :=
  t.contains '.' && isSexagesimal (beforePoint t) && (afterPoint t).all isSpaced

def plainDigits (t : Text) : Text := t.filter (· != '_')

def value (t : Text) : Double := (Double.ofText? t).getD .nan

def weighed (sum : Double) (weight : Nat) : List Text → Except Fault Double
  | [] => .ok sum
  | p :: parts =>
    match (value p).scale? weight with
    | some x => weighed (sum.add x) (weight * 60) parts
    | none => .error .tooManyParts

def sexagesimalValue (t : Text) : Except Fault Double :=
  weighed (Double.zero false) 1 (Text.pieces [':'] t).reverse

def number? (t : Text) : Option (Except Fault Double) :=
  let (negative, size) := signed t
  let withSign (x : Double) : Double := if negative then x.negate else x
  if isPointed size then some (.ok (withSign (value (plainDigits size))))
  else if isFraction t then some (.ok (value (plainDigits t)))
  else if isSexagesimalPointed size then
    some ((sexagesimalValue (plainDigits size)).map withSign)
  else if infinityWords.contains size then some (.ok (withSign (.infinity false)))
  else if nanWords.contains t then some (.ok .nan)
  else none

def hexValue (c : CodePoint) : Nat := if c.isDigit then c.toNat - 48 else c.lower.toNat - 87

def isHex (c : CodePoint) : Bool :=
  c.isDigit || c.isWithin 'a' 'f' || c.isWithin 'A' 'F'

def inBase (base : Nat) (t : Text) : Nat := t.foldl (fun n c => n * base + hexValue c) 0

def binaryPower (base : Nat) (t : Text) : Except Fault Nat :=
  if t.isEmpty then .error (.noDigits base) else .ok (inBase base t)

def decimal (t : Text) : Except Fault Nat :=
  if digitLimit < t.length then .error (.tooLong t.length) else .ok (inBase 10 t)

def sexagesimal (t : Text) : Except Fault Nat := do
  let parts ← (Text.pieces [':'] t).mapM decimal
  .ok (parts.foldl (fun n p => n * 60 + p) 0)

def marked? (mark : CodePoint) (digit : CodePoint → Bool) : Text → Option Text
  | .char '0' :: m :: c :: t =>
    if m == mark && (c :: t).all fun d => digit d || d == '_' then some (plainDigits (c :: t))
    else none
  | _ => none

def isOctal (t : Text) : Bool :=
  match t with
  | .char '0' :: c :: t => (c :: t).all fun d => d.isWithin '0' '7' || d == '_'
  | _ => false

def startsAboveZero (t : Text) : Bool :=
  t.head?.any fun c => c.isWithin '1' '9'

def size? (t : Text) : Option (Except Fault Nat) :=
  match marked? 'b' (fun c => c == '0' || c == '1') t, marked? 'x' isHex t with
  | some digits, _ => some (binaryPower 2 digits)
  | none, some digits => some (binaryPower 16 digits)
  | none, none =>
    if isOctal t then some (binaryPower 8 (plainDigits t))
    else if t == ("0" : Text) then some (.ok 0)
    else if startsAboveZero t && t.all isSpaced then some (decimal (plainDigits t))
    else if startsAboveZero t && isSexagesimal t then some (sexagesimal (plainDigits t))
    else none

def integer? (t : Text) : Option (Except Fault Int) :=
  let (negative, digits) := signed t
  (size? digits).map fun n => n.map (Conversion.withSign negative)

def marks : List Text := ["=", "<<"]

def resolve (t : Text) : Except Fault Payload :=
  match booleanWords.lookup t, number? t, integer? t with
  | some b, _, _ => .ok (.boolean b)
  | none, some x, _ => x.map .number
  | none, none, some i => i.map .integer
  | none, none, none =>
    if nullWords.contains t then .ok .null
    else if marks.contains t then .error .notYaml
    else .ok (.text t)

end Scalar

end PropertyFile.Yaml
