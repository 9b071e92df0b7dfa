import PropertyFile.Text.Utf8
import PropertyFile.Yaml.Scalar
import PropertyFile.Yaml.Span

/-! Directives: lines with a `%` at their start, in front of a document. -/

namespace PropertyFile.Yaml

inductive Directive
  | version (major : Nat)
  | tag (handle : Text)
  | other
  deriving DecidableEq, Repr

namespace Directive

def isNameChar (c : CodePoint) : Bool := c.isAlphanum || c == '-' || c == '_'

def isUriChar (c : CodePoint) : Bool :=
  c.isAlphanum || ("-;/?:@&=+$,_.!~*'()[]" : Text).contains c

def atEnd (t : Text) : Bool := t.head?.all fun c => c == .char ' ' || isBreak c

def dropLine (t : Text) : Text := t.dropWhile fun c => !isBreak c

def number (t : Text) : Except Fault (Nat × Text) :=
  let digits := t.takeWhile CodePoint.isDigit
  if digits.isEmpty then .error .notYaml
  else (Scalar.decimal digits).map fun n => (n, t.drop digits.length)

def readVersion (t : Text) : Except Fault (Nat × Text) := do
  let (major, t) ← number t
  match t with
  | .char '.' :: t =>
    let (_, t) ← number t
    if atEnd t then .ok (major, t) else .error .notYaml
  | _ => .error .notYaml

def handle? : Text → Option (Text × Text)
  | .char '!' :: .char ' ' :: t => some (['!'], ' ' :: t)
  | .char '!' :: t =>
    let name := t.takeWhile isNameChar
    match t.drop name.length with
    | .char '!' :: rest => some (.char '!' :: name ++ [.char '!'], rest)
    | _ => none
  | _ => none

def afterUri? (escaped : List UInt8) : Text → Option Text
  | .char '%' :: a :: b :: t =>
    if Scalar.isHex a && Scalar.isHex b then
      afterUri? (escaped ++ [UInt8.ofNat (Scalar.inBase 16 [a, b])]) t
    else none
  | t =>
    if !(Utf8.decode escaped).isOk then none
    else match t with
      | c :: rest => if isUriChar c then afterUri? [] rest else some t
      | [] => some []

def tag? (t : Text) : Option (Text × Text) := do
  let (handle, t) ← handle? t
  let uri := Text.dropRun ' ' t
  let rest ← afterUri? [] uri
  if t.head? == some ' ' && rest.length < uri.length && atEnd rest then some (handle, rest)
  else none

def nextLine (t : Text) : Except Fault Text :=
  match Text.dropRun ' ' t with
  | .char '#' :: t => .ok ((dropLine t).drop 1)
  | rest => if rest.head?.all isBreak then .ok (rest.drop 1) else .error .notYaml

def read (t : Text) : Except Fault (Directive × Text) :=
  let name := t.takeWhile isNameChar
  let rest := t.drop name.length
  if name.isEmpty || !atEnd rest then .error .notYaml
  else if name = "YAML" then do
    let (major, rest) ← readVersion (Text.dropRun ' ' rest)
    .ok (.version major, ← nextLine rest)
  else if name = "TAG" then
    match tag? (Text.dropRun ' ' rest) with
    | some (handle, rest) => (nextLine rest).map fun rest => (.tag handle, rest)
    | none => .error .notYaml
  else .ok (.other, (dropLine rest).drop 1)

def version? : Directive → Option Nat
  | .version major => some major
  | _ => none

def handles : Directive → List Text
  | .tag handle => [handle]
  | _ => []

def agree (ds : List Directive) : Bool :=
  [[], [1]].contains (ds.filterMap version?) && decide (ds.flatMap handles).Nodup

end Directive

end PropertyFile.Yaml
