import PropertyFile.Log
import PropertyFile.Registry
import PropertyFile.Resolution

/-! The values of a property file under the names of their keys, and the pass that resolves them in
place. -/

namespace PropertyFile

structure Store where
  registry : Registry
  values : Index Text
  nodup : values.names.Nodup
  deriving DecidableEq, Repr

structure Change where
  store : Store
  failure : Option Error
  notes : List Note
  deriving DecidableEq, Repr

namespace Change

def andThen (c : Change) (step : Store → Change) : Change :=
  match c.failure with
  | some _ => c
  | none => { step c.store with notes := c.notes ++ (step c.store).notes }

def noting (note : Note) (c : Change) : Change := { c with notes := note :: c.notes }

end Change

namespace Store

def empty (r : Registry) : Store := ⟨r, [], List.nodup_nil⟩

def done (s : Store) : Change := ⟨s, none, []⟩

def failed (s : Store) (e : Error) : Change := ⟨s, some e, []⟩

def put (s : Store) (name value : Text) : Change :=
  ⟨⟨s.registry, s.values.put name value, Index.nodup_names_put s.nodup name value⟩, none,
    [.updatedKey name]⟩

def setUnder (r : Registry) (s : Store) (key : KeyRef) (value : Text) : Change :=
  match r.require key with
  | .ok d => s.put d.name value
  | .error e => s.failed e

def set (s : Store) (key : KeyRef) (value : Text) : Change := setUnder s.registry s key value

def visible (r : Registry) (values : Index Text) : Index Text :=
  values.filter fun e => r.declares e.1

def storedValue? (s : Store) (name : Text) : Option Text :=
  if s.registry.declares name then s.values.find? name else none

def validate (s : Store) (r : Registry) : Except Error Unit :=
  match r.mandatory.find? fun d => !s.values.contains d.name with
  | some d => .error (ConfigError.missingMandatoryKey d.name)
  | none => .ok ()

def replacementNotes (x : Resolution) : List Note :=
  x.replacements.map fun p => .replacedReference p.1 p.2

structure Pass where
  values : Index Text
  cycle : Option (List Text)
  notes : List Note

def resolveFrom (r : Registry) (resolved : Index Text) : Index Text → Pass
  | [] => ⟨resolved, none, []⟩
  | (name, value) :: raw =>
    let x := resolve (visible r (resolved ++ (name, value) :: raw)) (some name) value
    match x.outcome with
    | .error chain => ⟨resolved ++ (name, value) :: raw, some chain, replacementNotes x⟩
    | .ok t =>
      let rest := resolveFrom r (resolved ++ [(name, t)]) raw
      { rest with notes := replacementNotes x ++ rest.notes }

theorem names_resolveFrom (r : Registry) (resolved raw : Index Text) :
    (resolveFrom r resolved raw).values.names = resolved.names ++ raw.names := by
  induction raw generalizing resolved with
  | nil => simp [resolveFrom, Index.names]
  | cons e raw ih =>
    obtain ⟨name, value⟩ := e
    simp only [resolveFrom]
    split
    · simp [Index.names]
    · rw [ih]; simp [Index.names]

def resolveAll (s : Store) : Change :=
  let p := resolveFrom s.registry [] s.values
  ⟨⟨s.registry, p.values, by rw [names_resolveFrom]; exact s.nodup⟩,
    p.cycle.map fun chain => ConfigError.cyclicReference chain, p.notes⟩

theorem names_resolveAll (s : Store) : s.resolveAll.store.values.names = s.values.names :=
  names_resolveFrom s.registry [] s.values

def contains (s : Store) : KeyRef → Except Error Bool
  | .other _ => .ok false
  | key => key.name?.map fun name => (s.storedValue? name).isSome

def size (s : Store) : Nat := s.values.length

def toIndex (s : Store) : Index Text := s.values.foldl (fun m e => m.put e.1 e.2) []

def text (s : Store) : Text := "PropertyStore(" ++ Text.ofNat s.size ++ " key(s))"

end Store

end PropertyFile
