import PropertyFile.Yaml.Scalar
import PropertyFile.Yaml.Span

/-! Quoted YAML scalars. -/

namespace PropertyFile.Yaml

def escapes : List (CodePoint × CodePoint) :=
  [('0', '\x00'), ('a', '\x07'), ('b', '\x08'), ('t', '\t'), ('\t', '\t'), ('n', '\n'),
    ('v', '\x0b'), ('f', '\x0c'), ('r', '\r'), ('e', '\x1b'), (' ', ' '), ('"', '"'), ('\\', '\\'),
    ('/', '/'), ('N', '\x85'), ('_', '\u00a0'), ('L', '\u2028'), ('P', '\u2029')]

def numbered : List (CodePoint × Nat) := [('x', 2), ('u', 4), ('U', 8)]

def code? (n : Nat) (t : Text) : Option (Nat × Text) :=
  let digits := t.take n
  if digits.length = n && digits.all Scalar.isHex then some (Scalar.inBase 16 digits, t.drop n)
  else none

def numberedChar (code : Nat) : Except Fault CodePoint :=
  if code < 0x110000 then .ok (CodePoint.ofNat code)
  else if code < 0x80000000 then .error .noCodePoint
  else .error .beyondWords

def orNotYaml {α : Type} (x : Option α) : Except Fault α :=
  match x with
  | some a => .ok a
  | none => .error .notYaml

def escape : Text → Except Fault (Text × Text)
  | [] => .error .notYaml
  | c :: t =>
    match escapes.lookup c, numbered.lookup c with
    | some d, _ => .ok ([d], t)
    | none, some n => do
      let (code, rest) ← orNotYaml (code? n t)
      .ok ([← numberedChar code], rest)
    | none, none =>
      orNotYaml (if isBreak c then furtherBreaks isSpace (t.length + 1) [] t else none)

def quotedFrom (double : Bool) : Nat → Text → Except Fault (Text × Text)
  | 0, _ => .error .notYaml
  | _, [] => .error .notYaml
  | fuel + 1, c :: t =>
    let goOn (piece rest : Text) : Except Fault (Text × Text) :=
      (quotedFrom double fuel rest).map fun (more, after) => (piece ++ more, after)
    if c == (if double then '"' else '\'') then
      if !double && t.head? == some '\'' then goOn ['\''] (t.drop 1) else .ok ([], t)
    else if double && c == '\\' then (escape t).bind fun (piece, rest) => goOn piece rest
    else if isSpace c || isBreak c then
      let next := t.dropWhile isSpace
      let (gap, after) := if isBreak c then ([], c :: t) else (c :: t.takeWhile isSpace, next)
      if after.head?.any isBreak then
        (orNotYaml (fold? isSpace after)).bind fun (gap, rest) => goOn gap rest
      else goOn gap after
    else goOn [c] t

def quoted (double : Bool) (t : Text) : Except Fault (Text × Text) :=
  quotedFrom double (t.length + 1) t

end PropertyFile.Yaml
