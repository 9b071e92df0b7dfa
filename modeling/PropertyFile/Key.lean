import PropertyFile.Enumeration

/-! What denotes a key: its name, a descriptor or a member of an enumeration. -/

namespace PropertyFile

inductive KeyRef
  | name (t : Text)
  | descriptor (d : Descriptor)
  | member (m : Member)
  | other (shown : Text)
  deriving DecidableEq, Repr

namespace KeyRef

def descriptor? : KeyRef → Except Error Descriptor
  | .name t => Descriptor.plain t
  | .descriptor d => .ok d
  | .member m => m.descriptor
  | .other shown => .error (.notKey shown)

def name? : KeyRef → Except Error Text
  | .name t => .ok t
  | r => r.descriptor?.map Descriptor.name

end KeyRef

end PropertyFile
