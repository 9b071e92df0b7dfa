import PropertyFile.Yaml.Value

/-! A decoder for the program to run with: YAML documents without block scalars, anchors and tags.
-/

namespace PropertyFile.Yaml

def printable : List (Nat × Nat) :=
  [(0x09, 0x0A), (0x0D, 0x0D), (0x20, 0x7E), (0x85, 0x85), (0xA0, 0xD7FF), (0xE000, 0xFFFD),
    (0x10000, 0x10FFFF)]

def read (t : Text) : Except Fault Payload :=
  if t.all (Text.within printable) then
    match Node.ofTokens (tokens t) with
    | .ok (some n) => n.payload
    | .ok none => .ok .null
    | .error f => .error f
  else .error .notYaml

def decode : Decoder := fun t =>
  (read t).mapError fun
    | .notYaml => .notYaml []
    | .tooLong n => .other (.integerTooLong (some n))
    | .noDigits base => .other (.noDigits base)
    | .tooManyParts => .other .beyondDoubles
    | .noCodePoint => .other .noCodePoint
    | .beyondWords => .other .beyondWords

end PropertyFile.Yaml
