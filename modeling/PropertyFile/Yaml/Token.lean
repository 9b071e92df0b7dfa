import PropertyFile.Yaml.Directive
import PropertyFile.Yaml.Quoted

/-! The tokens of a YAML text, a fault being the last of them. -/

namespace PropertyFile.Yaml

inductive Token
  | directive (d : Directive)
  | documentStart
  | documentEnd
  | sequenceStart
  | mappingStart
  | blockEnd
  | flowSequenceStart
  | flowSequenceEnd
  | flowMappingStart
  | flowMappingEnd
  | entry
  | flowEntry
  | key
  | value
  | scalar (plain : Bool) (t : Text)
  | fault (f : Fault)
  deriving DecidableEq, Repr

def Token.directive? : Token → Option Directive
  | .directive d => some d
  | _ => none

structure Cursor where
  rest : Text
  index : Nat
  line : Nat
  column : Nat

def Cursor.skip : Nat → Cursor → Cursor
  | 0, s => s
  | n + 1, s =>
    match s.rest with
    | [] => s
    | c :: t =>
      let atBreak := isBreak c && !(c == '\r' && t.head? == some '\n')
      skip n ⟨t, s.index + 1, if atBreak then s.line + 1 else s.line,
        if atBreak then 0 else if c == '\ufeff' then s.column else s.column + 1⟩

def Cursor.to (s : Cursor) (rest : Text) : Cursor := s.skip (s.rest.length - rest.length)

structure KeyPlace where
  before : Nat
  required : Bool
  index : Nat
  line : Nat
  column : Nat

/-- The columns of the open block collections, the innermost first; and one possible key for each
open flow collection, the innermost first, and for the block. -/
structure Lexer where
  cursor : Cursor
  tokens : List Token
  columns : List Nat
  keyAllowed : Bool
  keys : List (Option KeyPlace)

namespace Lexer

def start (t : Text) : Lexer := ⟨⟨t, 0, 0, 0⟩, [], [], true, [none]⟩

def inFlow (s : Lexer) : Bool := decide (1 < s.keys.length)

def column (s : Lexer) : Nat := s.cursor.column

def least (s : Lexer) : Nat := s.columns.head?.elim 0 (· + 1)

def emit (s : Lexer) (token : Token) : Lexer := { s with tokens := s.tokens ++ [token] }

def allow (s : Lexer) (keyAllowed : Bool) : Lexer := { s with keyAllowed := keyAllowed }

def forget (s : Lexer) : Except Fault Lexer :=
  match s.keys with
  | some k :: ks => if k.required then .error .notYaml else .ok { s with keys := none :: ks }
  | _ => .ok s

def remember (s : Lexer) : Except Fault Lexer :=
  if s.keyAllowed then
    s.forget.map fun s =>
      let k : KeyPlace := ⟨s.tokens.length, !s.inFlow && s.columns.head? == some s.column,
        s.cursor.index, s.cursor.line, s.column⟩
      { s with keys := some k :: s.keys.drop 1 }
  else .ok s

def stale (s : Lexer) (k : KeyPlace) : Bool :=
  k.line != s.cursor.line || decide (1024 < s.cursor.index - k.index)

def dropStale (s : Lexer) : Except Fault Lexer :=
  if s.keys.any fun k => k.any fun k => s.stale k && k.required then .error .notYaml
  else .ok { s with keys := s.keys.map fun k => k.filter fun k => !s.stale k }

def closeRightOf (s : Lexer) (isRight : Nat → Bool) : Lexer :=
  if s.inFlow then s
  else
    { s with
      tokens := s.tokens ++ (s.columns.takeWhile isRight).map fun _ => Token.blockEnd
      columns := s.columns.dropWhile isRight }

def closeAll (s : Lexer) : Lexer := s.closeRightOf fun _ => true

def opens (s : Lexer) (column : Nat) : Bool := !s.inFlow && s.columns.head?.all (· < column)

def openAt (s : Lexer) (before column : Nat) (token : Token) : Lexer :=
  if s.opens column then
    { s with
      tokens := s.tokens.take before ++ token :: s.tokens.drop before
      columns := column :: s.columns }
  else s

def insertKey (s : Lexer) (before : Nat) : Lexer :=
  { s with tokens := s.tokens.take before ++ .key :: s.tokens.drop before }

def skip (s : Lexer) (n : Nat) : Lexer := { s with cursor := s.cursor.skip n }

def directive (s : Lexer) : Except Fault Lexer :=
  s.closeAll.forget.bind fun s =>
    (Directive.read (s.cursor.rest.drop 1)).map fun (d, rest) =>
      { s.allow false with cursor := s.cursor.to rest }.emit (.directive d)

def marker (s : Lexer) (token : Token) : Except Fault Lexer :=
  s.closeAll.forget.map fun s => ((s.allow false).skip 3).emit token

def openFlow (s : Lexer) (token : Token) : Except Fault Lexer :=
  s.remember.map fun s => (({ s with keys := none :: s.keys }.allow true).skip 1).emit token

def closeFlow (s : Lexer) (token : Token) : Except Fault Lexer :=
  if s.inFlow then
    s.forget.map fun s => (({ s with keys := s.keys.drop 1 }.allow false).skip 1).emit token
  else .error .notYaml

def flowEntry (s : Lexer) : Except Fault Lexer :=
  s.forget.map fun s => ((s.allow true).skip 1).emit .flowEntry

def blockEntry (s : Lexer) : Except Fault Lexer :=
  if !s.inFlow && !s.keyAllowed then .error .notYaml
  else (s.openAt s.tokens.length s.column .sequenceStart).forget.map fun s =>
    ((s.allow true).skip 1).emit .entry

def explicitKey (s : Lexer) : Except Fault Lexer :=
  if !s.inFlow && !s.keyAllowed then .error .notYaml
  else (s.openAt s.tokens.length s.column .mappingStart).forget.map fun s =>
    ((s.allow !s.inFlow).skip 1).emit .key

def value (s : Lexer) : Except Fault Lexer :=
  match s.keys with
  | some k :: ks =>
    let s := { s.insertKey k.before with keys := none :: ks }
    .ok ((((s.openAt k.before k.column .mappingStart).allow false).skip 1).emit .value)
  | _ =>
    if !s.inFlow && !s.keyAllowed then .error .notYaml
    else (s.openAt s.tokens.length s.column .mappingStart).forget.map fun s =>
      ((s.allow !s.inFlow).skip 1).emit .value

def quoted (s : Lexer) (double : Bool) : Except Fault Lexer :=
  s.remember.bind fun s =>
    (Yaml.quoted double (s.cursor.rest.drop 1)).map fun (t, rest) =>
      { s.allow false with cursor := s.cursor.to rest }.emit (.scalar false t)

def plain (s : Lexer) : Except Fault Lexer :=
  s.remember.map fun s =>
    let (t, rest, crossed) := Yaml.plain s.inFlow s.least (s.cursor.rest.length + 1) s.cursor.rest
    { s.allow crossed with cursor := s.cursor.to rest }.emit (.scalar true t)

def indicators : Text :=
  ['-', '?', ':', ',', '[', ']', '{', '}', '#', '&', '*', '!', '|', '>', '\'', '"', '%', '@',
    '\u0060']

def beginsPlain (s : Lexer) (c : CodePoint) (t : Text) : Bool :=
  !(isSpace c || isBreak c || indicators.contains c) ||
    (!atGap t && (c == '-' || (!s.inFlow && (c == '?' || c == ':'))))

def token (s : Lexer) (c : CodePoint) (t : Text) : Except Fault Lexer :=
  if s.column = 0 && c == '%' then s.directive
  else if s.column = 0 && atMarker (c :: t) then
    s.marker (if c == '-' then .documentStart else .documentEnd)
  else match c with
    | .char '[' => s.openFlow .flowSequenceStart
    | .char '{' => s.openFlow .flowMappingStart
    | .char ']' => s.closeFlow .flowSequenceEnd
    | .char '}' => s.closeFlow .flowMappingEnd
    | .char ',' => s.flowEntry
    | .char '\'' => s.quoted false
    | .char '"' => s.quoted true
    | _ =>
      if c == '-' && atGap t then s.blockEntry
      else if c == '?' && (s.inFlow || atGap t) then s.explicitKey
      else if c == ':' && (s.inFlow || atGap t) then s.value
      else if s.beginsPlain c t then s.plain
      else .error .notYaml

def gap (s : Lexer) : Lexer :=
  let marked := s.cursor.index = 0 && s.cursor.rest.head? == some '\ufeff'
  let (crossed, after) := skipGap false false (s.cursor.rest.drop marked.toNat)
  let s := { s with cursor := s.cursor.to after }
  if crossed && !s.inFlow then s.allow true else s

def step (s : Lexer) : Except Fault (Lexer × Bool) :=
  s.gap.dropStale.bind fun s =>
    match s.cursor.rest with
    | [] => s.closeAll.forget.map fun s => (s, true)
    | c :: t => ((s.closeRightOf fun n => s.column < n).token c t).map fun s => (s, false)

def settled (s : Lexer) : List Token :=
  let pending := s.keys.filterMap fun k => k.filter fun k => !s.stale k
  s.tokens.take (pending.foldl (fun n k => min n k.before) s.tokens.length)

def runFrom : Nat → Lexer → List Token
  | 0, s => s.settled ++ [.fault .notYaml]
  | fuel + 1, s =>
    match s.step with
    | .error f => s.settled ++ [.fault f]
    | .ok (s, true) => s.tokens
    | .ok (s, false) => runFrom fuel s

end Lexer

def tokens (t : Text) : List Token := Lexer.runFrom (t.length + 1) (Lexer.start t)

end PropertyFile.Yaml
