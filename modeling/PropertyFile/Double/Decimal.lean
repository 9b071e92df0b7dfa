import PropertyFile.Double
import PropertyFile.Text.Digit

/-! Reading a double from decimal text, rounded once from the exact decimal. -/

namespace PropertyFile.Double

open Text

def group? : Text → Option (List Nat)
  | [] => some []
  | [c] => (digit? c).map ([·])
  | c :: .char '_' :: t =>
    match digit? c, group? t with
    | some d, some (e :: ds) => some (d :: e :: ds)
    | _, _ => none
  | c :: t =>
    match digit? c, group? t with
    | some d, some ds => some (d :: ds)
    | _, _ => none

def isExponentMark (c : CodePoint) : Bool := c == 'e' || c == 'E'

def exponent? : Text → Option Int
  | [] => some 0
  | _ :: t =>
    match group? (signed t).2 with
    | some (d :: ds) =>
      let n : Int := number (d :: ds)
      some (if (signed t).1 then -n else n)
    | _ => none

def mantissa? (t : Text) : Option (List Nat × Nat) :=
  match group? (before '.' t), group? (after '.' t) with
  | some [], some [] => none
  | some whole, some fraction => some (whole ++ fraction, fraction.length)
  | _, _ => none

def ofDecimal (negative : Bool) (digits : List Nat) (e : Int) : Double :=
  let significant := digits.dropWhile (· == 0)
  let top := e + significant.length
  if significant.isEmpty || decide (top < -330) then zero negative
  else if 310 < top then .infinity negative
  else nearest negative (number significant * Nat.pow 10 e.toNat) (Nat.pow 10 (-e).toNat)

def ofUnsigned? (negative : Bool) (t : Text) : Option Double :=
  if lowerAscii t = "inf" || lowerAscii t = "infinity" then some (.infinity negative)
  else if lowerAscii t = "nan" then some .nan
  else
    let plain := fun c => !isExponentMark c
    match mantissa? (t.takeWhile plain), exponent? (t.dropWhile plain) with
    | some (digits, places), some e => some (ofDecimal negative digits (e - places))
    | _, _ => none

def ofText? (t : Text) : Option Double := ofUnsigned? (signed t).1 (signed t).2

end PropertyFile.Double
