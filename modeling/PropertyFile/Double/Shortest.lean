import PropertyFile.Double
import PropertyFile.Text

/-! The shortest decimal that reads back as a given double, the nearest to it among those of that
length. -/

namespace PropertyFile.Double

structure Decimal where
  digits : Nat
  exponent : Int

structure Layout where
  lowest : Int
  highest : Int
  exponentDigits : Nat

def digitCount (n : Nat) : Nat := if n = 0 then 0 else (Nat.toDigits 10 n).length

def magnitude (num den : Nat) : Int :=
  if den ≤ num then digitCount (num / den) else 1 - (digitCount ((den - 1) / num) : Int)

/-- The numbers that round to a double, in quarters of its last place: the ends belong to them when
the mantissa is even. -/
structure Cell where
  low : Nat
  value : Nat
  high : Nat
  closed : Bool
  place : Int

def cell (m : Nat) (e : Int) : Cell where
  low := if m = Nat.pow 2 52 ∧ leastExponent < e then 4 * m - 1 else 4 * m - 2
  value := 4 * m
  high := 4 * m + 2
  closed := m % 2 = 0
  place := e - 2

def factors (place k : Int) : Nat × Nat :=
  (Nat.pow 2 place.toNat * Nat.pow 10 (-k).toNat, Nat.pow 10 k.toNat * Nat.pow 2 (-place).toNat)

def Cell.holds (c : Cell) (d : Nat) (k : Int) : Bool :=
  let (unit, step) := factors c.place k
  if c.closed then decide (c.low * unit ≤ d * step) && decide (d * step ≤ c.high * unit)
  else decide (c.low * unit < d * step) && decide (d * step < c.high * unit)

def Cell.onGrid? (c : Cell) (k : Int) : Option Decimal :=
  let (unit, step) := factors c.place k
  let d := c.value * unit / step
  let r := c.value * unit % step
  match c.holds d k, c.holds (d + 1) k with
  | true, true =>
    some ⟨if 2 * r < step then d else if step < 2 * r then d + 1 else d + d % 2, k⟩
  | true, false => some ⟨d, k⟩
  | false, true => some ⟨d + 1, k⟩
  | false, false => none

def shortest (m : Nat) (e : Int) : Decimal :=
  let c := cell m e
  let p := magnitude (c.value * Nat.pow 2 c.place.toNat) (Nat.pow 2 (-c.place).toNat)
  ((List.range 17).findSome? fun n => c.onGrid? (p - (n + 1 : Nat))).getD ⟨0, 0⟩

def dropZeros (t : Text) : Text := (Text.dropRun '0' t.reverse).reverse

def exponentText (width : Nat) (e : Int) : Text :=
  let digits := Text.ofNat e.natAbs
  (if e < 0 then '-' else '+') :: (Text.repeated (width - digits.length) '0' ++ digits)

def Decimal.text (layout : Layout) (d : Decimal) : Text :=
  let whole := Text.ofNat d.digits
  let first := d.exponent + whole.length - 1
  let digits := dropZeros whole
  if layout.lowest ≤ first ∧ first < layout.highest then
    if first < 0 then "0." ++ Text.repeated (-first - 1).toNat '0' ++ digits
    else
      let before := first.toNat + 1
      let fraction : Text := digits.drop before
      digits.take before ++ Text.repeated (before - digits.length) '0' ++ "." ++
        (if fraction.isEmpty then ("0" : Text) else fraction)
  else
    let further : Text := digits.drop 1
    digits.take 1 ++ (if further.isEmpty then [] else ("." ++ further : Text)) ++
      "e" ++ exponentText layout.exponentDigits first

def text (layout : Layout) : Double → Text
  | .nan => "nan"
  | .infinity n => if n then "-inf" else "inf"
  | .finite n m e =>
    let size : Text := if m = 0 then ("0.0" : Text) else (shortest m e).text layout
    if n then '-' :: size else size

end PropertyFile.Double
