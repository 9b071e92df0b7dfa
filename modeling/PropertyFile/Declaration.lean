import PropertyFile.Payload
import PropertyFile.Registry

/-! Key declarations: a mapping of key names to entries, bare or under the one key `keys`. -/

namespace PropertyFile.Declaration

open Payload (Mapping)

def invalid {α : Type} (label : Text) (problem : SchemaProblem) : Except Error α :=
  .error (ConfigError.schemaInvalid label problem)

def defaultText : Option Payload → Except Error Text
  | none | some .null => .ok []
  | some (.boolean b) => .ok (if b then "true" else "false")
  | some (.list _) | some (.mapping _) => .error ConfigError.defaultNotScalar
  | some p => p.shown

def flag (label name : Text) : Option Payload → Except Error Bool
  | none => .ok false
  | some p => do
    match ← p.permissive with
    | some b => .ok b
    | none => invalid label (.notBoolean name)

def fields : List Text := ["mandatory", "default"]

def descriptor (label : Text) (key entry : Payload) : Except Error Descriptor := do
  match ← key.optional with
  | none => invalid label .blankName
  | some name =>
    match entry with
    | .null => Descriptor.plain name
    | .mapping m =>
      let unknown ← Mapping.others m fields
      if unknown.isEmpty then do
        let mandatory ← flag label name (Mapping.find? m "mandatory")
        let default ← defaultText (Mapping.find? m "default")
        Descriptor.make name mandatory default
      else invalid label (.unsupportedFields name unknown)
    | _ => invalid label (.notEntry name)

def entries (label : Text) (m : Mapping) : Except Error Mapping :=
  match Mapping.find? m "keys" with
  | some (.mapping inner) => do
    let extra ← Mapping.others m ["keys"]
    if extra.isEmpty then .ok inner else invalid label (.unsupportedKeys extra)
  | _ => .ok m

def ofMapping (label : Text) (m : Mapping) : Except Error Registry := do
  let es ← entries label m
  Registry.ofDescriptors (← es.mapM fun e => descriptor label e.1 e.2)

end PropertyFile.Declaration

namespace PropertyFile

def Registry.ofPayload (label : Text) : Payload → Except Error Registry
  | .null => Declaration.ofMapping label []
  | .mapping m => Declaration.ofMapping label m
  | _ => Declaration.invalid label .notMapping

end PropertyFile
