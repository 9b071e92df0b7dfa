import PropertyFile.Declaration
import PropertyFile.File

/-! Schema files: documents that declare keys, read as data by a decoder that is given. -/

namespace PropertyFile.SchemaFile

def ofText (decode : Decoder) (path t : Text) : Except Error Registry :=
  match decode t with
  | .ok p => Registry.ofPayload ("Schema " ++ Text.quoted path) p
  | .error (.notYaml detail) => .error (ConfigError.schemaNotYaml path detail)
  | .error (.other e) => .error e

def readFile (decode : Decoder) (path : Text) : FileState → Except Error Registry
  | .missing => .error (ConfigError.schemaUnreadable path "No such file or directory")
  | .unreadable reason => .error (ConfigError.schemaUnreadable path reason)
  | .content bytes =>
    match Utf8.decode bytes with
    | .ok t => ofText decode path (Text.unified t)
    | .error f => .error (.undecodable f)

def read (decode : Decoder) (path : Text) (file : FileState) : Except Error Registry :=
  match Path.fault? (Path.normal path) with
  | some e => .error e
  | none => readFile decode (Path.normal path) file

end PropertyFile.SchemaFile
