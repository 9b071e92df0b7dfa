import PropertyFile.Entry
import PropertyFile.Store.Typed

/-! A store with all that it keeps: values under the descriptors that put them first. -/

namespace PropertyFile

abbrev Kept := List (Descriptor × Text)

namespace Kept

def find? : Kept → Descriptor → Option Text
  | [], _ => none
  | (e, v) :: m, d => if e.same d then some v else find? m d

def put : Kept → Descriptor → Text → Kept
  | [], d, v => [(d, v)]
  | (e, w) :: m, d, v => if e.same d then (e, v) :: m else (e, w) :: put m d v

def index (m : Kept) : Index Text := m.map fun e => (e.1.name, e.2)

theorem index_put (m : Kept) (d : Descriptor) (v : Text) :
    (m.put d v).index = m.index.put d.name v := by
  induction m with
  | nil => rfl
  | cons e m ih =>
    obtain ⟨e, w⟩ := e
    by_cases h : e.name = d.name
    · simp [put, index, Index.put, Descriptor.same, h]
    · simpa [put, index, Index.put, Descriptor.same, h] using ih

theorem find?_index (m : Kept) (d : Descriptor) : m.index.find? d.name = m.find? d := by
  induction m with
  | nil => rfl
  | cons e m ih =>
    obtain ⟨e, w⟩ := e
    by_cases h : e.name = d.name
    · simp [find?, index, Index.find?, Descriptor.same, h]
    · simpa [find?, index, Index.find?, Descriptor.same, h] using ih

end Kept

structure Ledger where
  registry : Registry
  kept : Kept
  nodup : kept.index.names.Nodup

namespace Ledger

structure Change where
  ledger : Ledger
  failure : Option Error
  notes : List Note

namespace Change

def andThen (c : Change) (step : Ledger → Change) : Change :=
  match c.failure with
  | some _ => c
  | none => { step c.ledger with notes := c.notes ++ (step c.ledger).notes }

def noting (note : Note) (c : Change) : Change := { c with notes := note :: c.notes }

end Change

def empty (r : Registry) : Ledger := ⟨r, [], List.nodup_nil⟩

def done (l : Ledger) : Change := ⟨l, none, []⟩

def failed (l : Ledger) (e : Error) : Change := ⟨l, some e, []⟩

def put (l : Ledger) (d : Descriptor) (value : Text) : Change :=
  ⟨⟨l.registry, l.kept.put d value, Kept.index_put l.kept d value ▸
    Index.nodup_names_put l.nodup d.name value⟩, none, [.updatedKey d.name]⟩

def setUnder (r : Registry) (l : Ledger) (key : KeyRef) (value : Text) : Change :=
  match r.require key with
  | .ok d => l.put d value
  | .error e => l.failed e

def flush (r : Registry) (l : Ledger) : Option Entry → Change
  | none => l.done
  | some e => setUnder r l (.name e.name) e.value

def readFrom (r : Registry) (broken : Option Error) (number : Nat) (pending : Option Entry)
    (l : Ledger) : List Text → Change
  | [] =>
    match broken with
    | none => flush r l pending
    | some e => l.failed e
  | t :: ts =>
    match Line.ofText t with
    | .ignored => (readFrom r broken (number + 1) pending l ts).noting (.ignoredLine number)
    | .continuation t =>
      match pending with
      | none => (readFrom r broken (number + 1) none l ts).noting (.droppedLine number)
      | some e => readFrom r broken (number + 1) (some (e.extend t)) l ts
    | .malformed t => l.failed (ConfigError.malformedLine number t)
    | .entry e => (flush r l pending).andThen fun l => readFrom r broken (number + 1) (some e) l ts

def storedValue? (l : Ledger) (name : Text) : Option Text :=
  (l.registry.find? name).bind l.kept.find?

structure Pass where
  kept : Kept
  cycle : Option (List Text)
  notes : List Note

def resolveEach (r : Registry) : List Descriptor → Kept → Pass
  | [], m => ⟨m, none, []⟩
  | d :: ds, m =>
    let x := resolve (Store.visible r m.index) (some d.name) ((m.find? d).getD [])
    match x.outcome with
    | .error chain => ⟨m, some chain, Store.replacementNotes x⟩
    | .ok t =>
      let rest := resolveEach r ds (m.put d t)
      { rest with notes := Store.replacementNotes x ++ rest.notes }

theorem nodup_resolveEach (r : Registry) (ds : List Descriptor) {m : Kept}
    (h : m.index.names.Nodup) : (resolveEach r ds m).kept.index.names.Nodup := by
  induction ds generalizing m with
  | nil => exact h
  | cons d ds ih =>
    simp only [resolveEach]
    split
    · exact h
    · apply ih
      rw [Kept.index_put]
      exact Index.nodup_names_put h d.name _

def resolveAll (l : Ledger) : Change :=
  let p := resolveEach l.registry (l.kept.map Prod.fst) l.kept
  ⟨⟨l.registry, p.kept, nodup_resolveEach l.registry _ l.nodup⟩,
    p.cycle.map fun chain => ConfigError.cyclicReference chain, p.notes⟩

def validate (l : Ledger) (r : Registry) : Except Error Unit :=
  match r.mandatory.find? fun d => (l.kept.find? d).isNone with
  | some d => .error (ConfigError.missingMandatoryKey d.name)
  | none => .ok ()

def get (l : Ledger) (key : KeyRef) : Except Error Text := do
  let d ← l.registry.require key
  match l.kept.find? d with
  | some (c :: t) => .ok (c :: t)
  | _ =>
    match (resolve (Store.visible l.registry l.kept.index) none d.default).outcome with
    | .ok t => .ok t
    | .error chain => .error (ConfigError.cyclicReference chain)

variable {α : Type}

def getAs (l : Ledger) (key : KeyRef) (expected : Text)
    (read : Text → Except Conversion.Fault α) : Except Error α := do
  let value ← l.get key
  let d ← l.registry.require key
  Store.converted d.name value expected (read value)

def getList (l : Ledger) (key : KeyRef) (type : ElementType α) (delimiter : Text) :
    Except Error (List α) :=
  match type with
  | .unsupported shown => .error (.notElementType shown)
  | .element e => do
    let value ← l.get key
    let fields ← split delimiter value
    let d ← l.registry.require key
    Store.converted d.name value ("list of " ++ e.name.getD "values") (fields.mapM e.convert)

def contains (l : Ledger) : KeyRef → Except Error Bool
  | .other _ => .ok false
  | key => key.name?.map fun name => (l.storedValue? name).isSome

def size (l : Ledger) : Nat := l.kept.length

def toIndex (l : Ledger) : Index Text := l.kept.foldl (fun m e => m.put e.1.name e.2) []

end Ledger

end PropertyFile
