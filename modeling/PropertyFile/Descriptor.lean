import PropertyFile.Error
import PropertyFile.Text.Blank
import PropertyFile.Text.Literal

/-! Keys as they are declared: a name, which is the key, with a mandatory flag and a default text.
-/

namespace PropertyFile

structure Descriptor where
  name : Text
  mandatory : Bool
  default : Text
  named : Text.blank name = false
  deriving DecidableEq, Repr

namespace Descriptor

def make (name : Text) (mandatory : Bool) (default : Text) : Except Error Descriptor :=
  if h : Text.blank name = false then .ok ⟨name, mandatory, default, h⟩ else .error .blankName

def plain (name : Text) : Except Error Descriptor := make name false []

def shown (d : Descriptor) : Text :=
  "KeyDescriptor(name=" ++ Text.literal d.name ++
    ", mandatory=" ++ (if d.mandatory then "True" else "False") ++
    ", default_value=" ++ Text.literal d.default ++ ")"

def same (a b : Descriptor) : Bool := a.name == b.name

theorem make_eq_ok_iff {name default : Text} {mandatory : Bool} {d : Descriptor} :
    make name mandatory default = .ok d ↔
      d.name = name ∧ d.mandatory = mandatory ∧ d.default = default := by
  unfold make
  constructor
  · split
    · rintro h; cases h; exact ⟨rfl, rfl, rfl⟩
    · rintro h; cases h
  · rintro ⟨rfl, rfl, rfl⟩
    rw [dif_pos d.named]

end Descriptor

end PropertyFile
