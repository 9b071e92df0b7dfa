import PropertyFile.Text.Printable

/-! The written form of a text: between quotes, with escapes. -/

namespace PropertyFile.Text

def escaped (quote c : CodePoint) : Text :=
  if c == quote || c == '\\' then ['\\', c]
  else if c == '\t' then "\\t"
  else if c == '\n' then "\\n"
  else if c == '\r' then "\\r"
  else if isPrintable c then [c]
  else if c.toNat < 0x100 then "\\x" ++ hex 2 c.toNat
  else if c.toNat < 0x10000 then "\\u" ++ hex 4 c.toNat
  else "\\U" ++ hex 8 c.toNat

def quoteFor (t : Text) : CodePoint := if t.contains '\'' && !t.contains '"' then '"' else '\''

def literal (t : Text) : Text := quoteFor t :: t.flatMap (escaped (quoteFor t)) ++ [quoteFor t]

def literals (ts : List Text) : Text := joined ", " (ts.map literal)

end PropertyFile.Text
