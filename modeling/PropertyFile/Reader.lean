import PropertyFile.Entry

/-! One reader for several inputs, which lets go of the entry that has begun when an input ends. -/

namespace PropertyFile

structure Reader where
  registry : Registry
  pending : Option Entry
  deriving DecidableEq, Repr

namespace Reader

def ofRegistry (r : Registry) : Reader := ⟨r, none⟩

def begun (p : Reader) (e : Entry) : Reader := { p with pending := some e }

def idle (p : Reader) : Reader := { p with pending := none }

def line (p : Reader) (number : Nat) (s : Store) (l : Text) : Reader × Change :=
  match Line.ofText l with
  | .ignored => (p, s.done.noting (.ignoredLine number))
  | .continuation t =>
    match p.pending with
    | none => (p, s.done.noting (.droppedLine number))
    | some e => (p.begun (e.extend t), s.done)
  | .malformed t => (p, s.failed (ConfigError.malformedLine number t))
  | .entry e =>
    let c := Store.flush p.registry s p.pending
    (if c.failure.isSome then p else p.begun e, c)

def lines (p : Reader) (number : Nat) (s : Store) : List Text → Reader × Change
  | [] => (p, s.done)
  | l :: ls =>
    let x := p.line number s l
    if x.2.failure.isSome then x
    else
      let y := lines x.1 (number + 1) x.2.store ls
      (y.1, x.2.andThen fun _ => y.2)

def ended (x : Reader × Change) : Change :=
  x.2.andThen fun s => Store.flush x.1.registry s x.1.pending

def read (p : Reader) (s : Store) (ls : List Text) : Reader × Change :=
  let x := p.idle.lines 1 s ls
  (x.1.idle, ended x)

def readText (p : Reader) (s : Store) (t : Text) : Reader × Change :=
  p.read s (Text.lines Text.isBreak t)

end Reader

end PropertyFile
