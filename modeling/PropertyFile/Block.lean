import PropertyFile.Text.Lines
import PropertyFile.Text.Utf8

/-! Files are read in blocks, so the lines before a byte that is no text may have been read when it
shows. -/

namespace PropertyFile.Block

def size : Nat := 8192

def before (f : Utf8.Fault) (length : Nat) : Nat :=
  match f.reason with
  | .start => f.position / size * size
  | .continuation => (f.position + f.length) / size * size
  | .truncated => length

def linesBefore (f : Utf8.Fault) (bytes : List UInt8) : List Text :=
  let t := Utf8.readable (bytes.take (before f bytes.length))
  Text.lines Text.isFileBreak (Text.ended Text.isFileBreak t)

end PropertyFile.Block
