import PropertyFile.Proofs.Numerals
import PropertyFile.Proofs.Splitting

/-! Reading a list converts all fields of the value or returns none. -/

namespace PropertyFile

open Text (blank isBlank joined ofInt trim)

namespace Text

variable {p : Text} {ps : List Text} {d : Text}

def Unspaced (p : Text) : Prop := p ≠ [] ∧ ∀ c ∈ p, isBlank c = false

lemma Unspaced.not_blank (h : Unspaced p) : blank p = false := by
  obtain ⟨hne, hp⟩ := h
  obtain ⟨c, p, rfl⟩ := List.exists_cons_of_ne_nil hne
  simp [blank, hp c List.mem_cons_self]

end Text

namespace Store

variable {α : Type} {s : Store} {key : KeyRef} {d : Descriptor} {delimiter v : Text}
  {fs : List Text} {e : Element α} {type : ElementType α} {x : Except Error (List α)}

end Store

end PropertyFile
