import PropertyFile.Text.Blank

/-! References to other values, `${NAME}` and `$NAME`, with names of at least two characters. -/

namespace PropertyFile.Reference

open Text (isBlank)

def isInitial (c : CodePoint) : Bool := c.isAlpha || c == '_' || c == '.'

def isNameChar (c : CodePoint) : Bool := isInitial c || c.isDigit

def isName : Text → Bool
  | c :: d :: t => isInitial c && (d :: t).all isNameChar
  | _ => false

def nameAt? (t : Text) : Option Text :=
  let n := t.takeWhile isNameChar
  if isName n then some n else none

def closed? (t : Text) : Option Text :=
  match t.dropWhile isBlank with
  | .char '}' :: rest => some rest
  | _ => none

def at? : Text → Option (Text × Nat)
  | .char '$' :: .char '{' :: t =>
    let inner := t.dropWhile isBlank
    (nameAt? inner).bind fun n =>
      (closed? (inner.drop n.length)).map fun rest => (n, t.length + 2 - rest.length)
  | .char '$' :: t => (nameAt? t).map fun n => (n, n.length + 1)
  | _ => none

def spelling? (name : Text) : Text → Option Nat
  | .char '$' :: .char '{' :: t =>
    let inner := t.dropWhile isBlank
    if name.isPrefixOf inner then
      (closed? (inner.drop name.length)).map fun rest => t.length + 2 - rest.length
    else none
  | .char '$' :: t =>
    if name.isPrefixOf t && !((t.drop name.length).head?.any isNameChar) then some (name.length + 1)
    else none
  | _ => none

inductive Piece
  | plain (c : CodePoint)
  | reference (name spelling : Text)
  deriving DecidableEq, Repr

namespace Piece

def text : Piece → Text
  | .plain c => [c]
  | .reference _ spelling => spelling

def name? : Piece → Option Text
  | .plain _ => none
  | .reference name _ => some name

end Piece

def piecesFrom : Nat → Text → List Piece
  | _, [] => []
  | skip + 1, _ :: t => piecesFrom skip t
  | 0, c :: t =>
    match at? (c :: t) with
    | some (name, length) => .reference name ((c :: t).take length) :: piecesFrom (length - 1) t
    | none => .plain c :: piecesFrom 0 t

def pieces (t : Text) : List Piece := piecesFrom 0 t

def names (t : Text) : List Text := ((pieces t).filterMap Piece.name?).eraseDups

def replaceFrom (name replacement : Text) : Nat → Text → Text
  | _, [] => []
  | skip + 1, _ :: t => replaceFrom name replacement skip t
  | 0, c :: t =>
    match spelling? name (c :: t) with
    | some length => replacement ++ replaceFrom name replacement (length - 1) t
    | none => c :: replaceFrom name replacement 0 t

def replace (name replacement t : Text) : Text := replaceFrom name replacement 0 t

end PropertyFile.Reference
