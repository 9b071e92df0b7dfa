import PropertyFile.Text

/-! Spans of a YAML text: the gaps between tokens, and scalars with the lines they run over. -/

namespace PropertyFile.Yaml

def isBreak (c : CodePoint) : Bool := ("\n\r\x85\u2028\u2029" : Text).contains c

def isSpace (c : CodePoint) : Bool := c == ' ' || c == '\t'

def atGap (t : Text) : Bool := t.head?.all fun c => isSpace c || isBreak c

def atMarker (t : Text) : Bool :=
  (("---" : Text).isPrefixOf t || ("...": Text).isPrefixOf t) && atGap (t.drop 3)

def skipGap (comment crossed : Bool) : Text → Bool × Text
  | [] => (crossed, [])
  | c :: t =>
    if isBreak c then skipGap false true t
    else if comment then skipGap true crossed t
    else if c == ' ' then skipGap false crossed t
    else if c == '#' then skipGap true crossed t
    else (crossed, c :: t)

def breakText (c : CodePoint) : Text := if c == '\u2028' || c == '\u2029' then [c] else "\n"

def furtherBreaks (space : CodePoint → Bool) : Nat → Text → Text → Option (Text × Text)
  | 0, breaks, t => some (breaks, t)
  | fuel + 1, breaks, t =>
    if atMarker t then none
    else match t.dropWhile space with
      | [] => some (breaks, [])
      | c :: rest =>
        if isBreak c then furtherBreaks space fuel (breaks ++ breakText c) rest
        else some (breaks, c :: rest)

def fold? (space : CodePoint → Bool) : Text → Option (Text × Text)
  | [] => some ([], [])
  | c :: t =>
    (furtherBreaks space (t.length + 1) [] t).map fun (breaks, rest) =>
      (if breakText c != ("\n" : Text) then breakText c ++ breaks
        else if breaks.isEmpty then " " else breaks, rest)

def plainLength (flow : Bool) : Text → Nat
  | [] => 0
  | c :: t =>
    if isSpace c || isBreak c || (flow && (",?[]\x7b\x7d" : Text).contains c) then 0
    else if c == ':' && (atGap t || (flow && t.head?.any (",[]\x7b\x7d" : Text).contains)) then 0
    else plainLength flow t + 1

def leadingSpaces (t : Text) : Nat := t.length - (Text.dropRun ' ' t).length

def plain (flow : Bool) (least : Nat) : Nat → Text → Text × Text × Bool
  | 0, t => ([], t, false)
  | fuel + 1, t =>
    let n := plainLength flow t
    if n = 0 then ([], t, false)
    else
      let word := t.take n
      let rest := t.drop n
      let next := Text.dropRun ' ' rest
      let goOn (gap next : Text) (crossed : Bool) : Text × Text × Bool :=
        if next.head? == some '#' || plainLength flow next = 0 then (word, next, crossed)
        else
          let (more, after, crossed) := plain flow least fuel next
          (word ++ gap ++ more, after, crossed)
      if next.head?.any isBreak then
        match fold? (· == ' ') next with
        | none => (word, next.drop 1, true)
        | some (gap, after) =>
          let line := rest.take (rest.length - after.length)
          let column := leadingSpaces (line.reverse)
          if !flow && decide (column < least) then (word, after, true) else goOn gap after true
      else if next.length < rest.length then goOn (rest.take (rest.length - next.length)) next false
      else (word, rest, false)

end PropertyFile.Yaml
