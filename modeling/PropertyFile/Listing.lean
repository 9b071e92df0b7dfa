import PropertyFile.Store.Typed

/-! Printed values, whose further lines are indented so that rows read as a property file again. -/

namespace PropertyFile.Listing

def indent : Text := "    "

def indented (value : Text) : Text :=
  value.flatMap fun c : CodePoint => if c == '\n' then '\n' :: indent else [c]

def row (name value : Text) : Text := name ++ " = " ++ indented value ++ "\n"

def rows (pairs : List (Text × Text)) : Text := pairs.flatMap fun p => row p.1 p.2

end PropertyFile.Listing
