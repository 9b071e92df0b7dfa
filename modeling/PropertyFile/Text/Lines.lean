import PropertyFile.Text

/-! Cutting a text into lines, at the breaks of a file or at every line boundary of Unicode. -/

namespace PropertyFile.Text

def isFileBreak (c : CodePoint) : Bool := c == '\n' || c == '\r'

def isBreak (c : CodePoint) : Bool :=
  within [(0x0A, 0x0D), (0x1C, 0x1E), (0x85, 0x85), (0x2028, 0x2029)] c

def pushFirst (c : CodePoint) : List Text → List Text
  | [] => [[c]]
  | l :: ls => (c :: l) :: ls

def lines (breaks : CodePoint → Bool) : Text → List Text
  | [] => []
  | .char '\r' :: .char '\n' :: t => [] :: lines breaks t
  | c :: t => if breaks c then [] :: lines breaks t else pushFirst c (lines breaks t)

def unified : Text → Text
  | [] => []
  | .char '\r' :: .char '\n' :: t => '\n' :: unified t
  | c :: t => (if c == '\r' then '\n' else c) :: unified t

def ended (breaks : CodePoint → Bool) (t : Text) : Text :=
  let t := if t.getLast? == some '\r' then t.dropLast else t
  (t.reverse.dropWhile fun c => !breaks c).reverse

theorem isBreak_of_isFileBreak {c : CodePoint} (h : isFileBreak c = true) : isBreak c = true := by
  simp only [isFileBreak, Bool.or_eq_true, beq_iff_eq] at h
  rcases h with rfl | rfl <;> rfl

end PropertyFile.Text
