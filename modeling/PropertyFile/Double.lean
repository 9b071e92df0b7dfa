/-! Binary floating point numbers of 64 bits, with exact rounding. -/

namespace PropertyFile

/-- A finite double is `mantissa * 2 ^ exponent`, with 53 bits of mantissa or, at the least
exponent, fewer. -/
inductive Double
  | nan
  | infinity (negative : Bool)
  | finite (negative : Bool) (mantissa : Nat) (exponent : Int)
  deriving DecidableEq, Repr

namespace Double

def leastExponent : Int := -1074

def greatestExponent : Int := 971

def zero (negative : Bool) : Double := .finite negative 0 leastExponent

def divNearest (num den : Nat) : Nat :=
  let q := num / den
  let r := num % den
  if 2 * r < den then q else if den < 2 * r then q + 1 else if q % 2 = 0 then q else q + 1

def scaled (num den : Nat) (e : Int) : Nat × Nat :=
  if 0 ≤ e then (num, den * Nat.pow 2 e.toNat) else (num * Nat.pow 2 (-e).toNat, den)

def rounded (num den : Nat) (e : Int) : Nat := divNearest (scaled num den e).1 (scaled num den e).2

def exponentOf (num den : Nat) : Int :=
  let e := max leastExponent ((num.log2 : Int) - den.log2 - 53)
  if Nat.pow 2 53 ≤ (scaled num den e).1 / (scaled num den e).2 then e + 1 else e

def ofMantissa (negative : Bool) (m : Nat) (e : Int) : Double :=
  if greatestExponent < e then .infinity negative else .finite negative m e

def nearest (negative : Bool) (num den : Nat) : Double :=
  if num = 0 then zero negative
  else
    let e := exponentOf num den
    let m := rounded num den e
    if m = Nat.pow 2 53 then ofMantissa negative (Nat.pow 2 52) (e + 1) else ofMantissa negative m e

def negate : Double → Double
  | .nan => .nan
  | .infinity n => .infinity !n
  | .finite n m e => .finite (!n) m e

def bits : Double → Nat
  | .nan => 0x7FF8 * Nat.pow 2 48
  | .infinity n => n.toNat * Nat.pow 2 63 + 0x7FF * Nat.pow 2 52
  | .finite n m e =>
    let hidden := Nat.pow 2 52
    let size := if m < hidden then m else (e - leastExponent + 1).toNat * hidden + (m - hidden)
    n.toNat * Nat.pow 2 63 + size

def quotient : Double → Option (Int × Nat)
  | .finite n m e =>
    let size : Nat := m * Nat.pow 2 e.toNat
    some (if n then -(size : Int) else size, Nat.pow 2 (-e).toNat)
  | _ => none

def equalsInt (x : Double) (i : Int) : Bool :=
  match x.quotient with
  | some (num, den) => num == i * den
  | none => false

def equals (x y : Double) : Bool :=
  match x, y with
  | .nan, _ => false
  | _, .nan => false
  | .finite _ 0 _, .finite _ 0 _ => true
  | _, _ => x == y

def add (x y : Double) : Double :=
  match x.quotient, y.quotient with
  | some (a, b), some (c, d) => nearest false (a.natAbs * d + c.natAbs * b) (b * d)
  | _, _ => .infinity false

def scale? (x : Double) (n : Nat) : Option Double :=
  match x.quotient, (nearest false n 1).quotient with
  | _, none => none
  | some (a, b), some (c, d) => some (nearest false (a.natAbs * c.natAbs) (b * d))
  | none, some _ => some (.infinity false)

end Double

end PropertyFile
