/-! Code points: characters, and the halves of surrogate pairs. -/

namespace PropertyFile

inductive CodePoint
  | char (c : Char)
  | half (h : Fin 2048)
  deriving DecidableEq, Repr, Inhabited

namespace CodePoint

instance : Coe Char CodePoint := ⟨.char⟩

def toNat : CodePoint → Nat
  | .char c => c.toNat
  | .half h => 0xD800 + h.val

def ofNat (n : Nat) : CodePoint :=
  if h : 0xD800 ≤ n ∧ n < 0xE000 then .half ⟨n - 0xD800, by omega⟩ else .char (Char.ofNat n)

theorem toNat_ofNat {n : Nat} (h : n < 0x110000) : (ofNat n).toNat = n := by
  unfold ofNat
  split
  · simp only [toNat]
    omega
  · have valid : n.isValidChar := by
      unfold Nat.isValidChar
      omega
    rw [toNat, Char.ofNat, dif_pos valid]
    rfl

theorem toNat_injective {c d : CodePoint} (h : c.toNat = d.toNat) : c = d := by
  cases c with
  | char a =>
    cases d with
    | char b => exact congrArg char (Char.ext (UInt32.toNat_inj.mp h))
    | half k =>
      have valid : a.toNat.isValidChar := a.valid
      simp only [toNat] at h
      unfold Nat.isValidChar at valid
      omega
  | half k =>
    cases d with
    | char b =>
      have valid : b.toNat.isValidChar := b.valid
      simp only [toNat] at h
      unfold Nat.isValidChar at valid
      omega
    | half l =>
      simp only [toNat] at h
      exact congrArg half (Fin.ext (by omega))

def toChar : CodePoint → Char
  | .char c => c
  | .half _ => '\ufffd'

def isHalf : CodePoint → Bool
  | .char _ => false
  | .half _ => true

def isWithin (first last : Char) : CodePoint → Bool
  | .char c => decide (first ≤ c) && decide (c ≤ last)
  | .half _ => false

def isDigit (c : CodePoint) : Bool := c.isWithin '0' '9'

def isAlpha (c : CodePoint) : Bool := c.isWithin 'a' 'z' || c.isWithin 'A' 'Z'

def isAlphanum (c : CodePoint) : Bool := c.isAlpha || c.isDigit

def lower : CodePoint → CodePoint
  | .char c => .char c.toLower
  | .half h => .half h

end CodePoint

end PropertyFile
