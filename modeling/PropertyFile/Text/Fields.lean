import PropertyFile.Text.Blank
import PropertyFile.Text.Lines

/-! Cutting a text at a literal delimiter, at the leftmost places that do not overlap, and into
words. -/

namespace PropertyFile.Text

def piecesFrom (delimiter : Text) : Nat → Text → List Text
  | _, [] => [[]]
  | skip + 1, _ :: t => piecesFrom delimiter skip t
  | 0, c :: t =>
    if delimiter.isPrefixOf (c :: t) then [] :: piecesFrom delimiter (delimiter.length - 1) t
    else pushFirst c (piecesFrom delimiter 0 t)

def pieces (delimiter : Text) (t : Text) : List Text := piecesFrom delimiter 0 t

def fields (delimiter : Text) (t : Text) : List Text :=
  ((pieces delimiter t).map trim).filter fun f => !f.isEmpty

def words (t : Text) : List Text :=
  (lines (fun c => c == ',' || isBlank c) t).filter fun w => !w.isEmpty

theorem piecesFrom_drop (delimiter : Text) (skip : Nat) (t : Text) :
    piecesFrom delimiter skip t = piecesFrom delimiter 0 (t.drop skip) := by
  induction t generalizing skip with
  | nil => cases skip <;> simp [piecesFrom]
  | cons c t ih => cases skip with
    | zero => rfl
    | succ n => simpa [piecesFrom] using ih n

end PropertyFile.Text
