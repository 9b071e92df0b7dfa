import PropertyFile.Text

/-!
White space of Unicode, and the text without the white space around it.
-/

namespace PropertyFile.Text

def blanks : List (Nat × Nat) :=
  [(0x09, 0x0D), (0x1C, 0x20), (0x85, 0x85), (0xA0, 0xA0), (0x1680, 0x1680), (0x2000, 0x200A),
    (0x2028, 0x2029), (0x202F, 0x202F), (0x205F, 0x205F), (0x3000, 0x3000)]

def isBlank (c : CodePoint) : Bool := within blanks c

def blank (t : Text) : Bool := t.all isBlank

def trim (t : Text) : Text := ((t.dropWhile isBlank).reverse.dropWhile isBlank).reverse

def trimmed (t : Text) : Bool := decide (trim t = t)

theorem dropWhile_of_all {p : CodePoint → Bool} {t : Text} (h : t.all p = true) :
    t.dropWhile p = [] := by
  induction t with
  | nil => rfl
  | cons c t ih => simp_all

theorem trim_of_blank {t : Text} (h : blank t = true) : trim t = [] := by
  simp [trim, dropWhile_of_all h]

end PropertyFile.Text
