import PropertyFile.Error
import PropertyFile.Text.Fields

/-! Paths, written without empty and `.` components, and what is found under them. -/

namespace PropertyFile

inductive FileState
  | missing
  | unreadable (reason : Text)
  | content (bytes : List UInt8)
  deriving DecidableEq, Repr

namespace Path

def components (path : Text) : List Text :=
  (Text.pieces "/" path).filter fun p => !p.isEmpty && p != ("." : Text)

def root (path : Text) : Text :=
  match path with
  | .char '/' :: .char '/' :: .char '/' :: _ => "/"
  | .char '/' :: .char '/' :: _ => "//"
  | .char '/' :: _ => "/"
  | _ => []

def normal (path : Text) : Text :=
  let p := root path ++ Text.joined "/" (components path)
  if p.isEmpty then "." else p

/-- Halves of pairs that stand for the bytes of a name that is no text. -/
def isByte (c : CodePoint) : Bool := decide (0xDC80 ≤ c.toNat) && decide (c.toNat ≤ 0xDCFF)

def fault? (path : Text) : Option Error :=
  match Utf8.encodingFault? isByte path with
  | some f => some (.unencodable f)
  | none => if path.contains '\x00' then some .embeddedNul else none

end Path

end PropertyFile
