import PropertyFile.Text.CodePoint

/-! Texts and the small tools every other module uses on them. -/

namespace PropertyFile

abbrev Text := List CodePoint

namespace Text

def ofChars (cs : List Char) : Text := cs.map .char

def ofString (s : String) : Text := ofChars s.toList

instance : Coe String Text := ⟨ofString⟩

def toString (t : Text) : String := String.ofList (t.map CodePoint.toChar)

def ofNat (n : Nat) : Text := ofChars (Nat.toDigits 10 n)

def ofInt : Int → Text
  | .ofNat n => ofNat n
  | .negSucc n => '-' :: ofNat (n + 1)

def repeated (n : Nat) (c : CodePoint) : Text := List.replicate n c

def hex (width n : Nat) : Text :=
  let digits := ofChars (Nat.toDigits 16 n)
  repeated (width - digits.length) '0' ++ digits

def quoted (t : Text) : Text := "`" ++ t ++ "`"

def joined (separator : Text) (ts : List Text) : Text := separator.intercalate ts

def codes (t : Text) : List Nat := t.map CodePoint.toNat

def before (c : CodePoint) (t : Text) : Text := t.takeWhile (· != c)

def after (c : CodePoint) (t : Text) : Text := (t.dropWhile (· != c)).drop 1

def lowerAscii (t : Text) : Text := t.map CodePoint.lower

def dropRun (c : CodePoint) (t : Text) : Text := t.dropWhile (· == c)

section Sorting

variable {α : Type} (key : α → Text)

def insertBy (a : α) : List α → List α
  | [] => [a]
  | b :: l => if codes (key b) < codes (key a) then b :: insertBy a l else a :: b :: l

def sortBy (l : List α) : List α := l.foldr (insertBy key) []

end Sorting

def sorted (ts : List Text) : List Text := sortBy id ts

def within : List (Nat × Nat) → CodePoint → Bool
  | [], _ => false
  | (low, high) :: ranges, c =>
    if c.toNat < low then false else if c.toNat ≤ high then true else within ranges c

theorem exists_of_within {ranges : List (Nat × Nat)} {c : CodePoint} (h : within ranges c = true) :
    ∃ r ∈ ranges, r.1 ≤ c.toNat ∧ c.toNat ≤ r.2 := by
  induction ranges with
  | nil => cases h
  | cons r ranges ih =>
    rw [within] at h
    split at h
    · cases h
    · split at h
      · exact ⟨r, List.mem_cons_self, by omega, ‹_›⟩
      · obtain ⟨q, hq, hc⟩ := ih h
        exact ⟨q, List.mem_cons_of_mem r hq, hc⟩

theorem not_within_of_apart {ranges : List (Nat × Nat)} {c : CodePoint}
    (h : ∀ r ∈ ranges, c.toNat < r.1 ∨ r.2 < c.toNat) : within ranges c = false := by
  cases hw : within ranges c with
  | false => rfl
  | true =>
    obtain ⟨r, hr, hlow, hhigh⟩ := exists_of_within hw
    have := h r hr
    omega

end Text

end PropertyFile
