import PropertyFile.Conversion
import PropertyFile.Store
import PropertyFile.Text.Fields

/-! Reading values out of a store, where a key without a value reads as its default. -/

namespace PropertyFile

structure Element (α : Type) where
  name : Option Text
  convert : Text → Except Conversion.Fault α

namespace Element

def text : Element Text := ⟨some "str", .ok⟩

def integer : Element Int := ⟨some "int", Conversion.integer⟩

def double : Element Double := ⟨some "float", Conversion.double⟩

def boolean : Element Bool := ⟨some "bool", Conversion.boolean⟩

end Element

inductive ElementType (α : Type)
  | element (e : Element α)
  | unsupported (shown : Text)

def split (delimiter : Text) (t : Text) : Except Error (List Text) :=
  if delimiter.isEmpty then .error .emptyDelimiter else .ok (Text.fields delimiter t)

namespace Store

def get (s : Store) (key : KeyRef) : Except Error Text := do
  let d ← s.registry.require key
  match s.values.find? d.name with
  | some (c :: t) => .ok (c :: t)
  | _ =>
    match (resolve (visible s.registry s.values) none d.default).outcome with
    | .ok t => .ok t
    | .error chain => .error (ConfigError.cyclicReference chain)

variable {α : Type}

def converted (name value expected : Text) (x : Except Conversion.Fault α) : Except Error α :=
  x.mapError fun _ => ConfigError.invalidValue name value expected

def getAs (s : Store) (key : KeyRef) (expected : Text)
    (read : Text → Except Conversion.Fault α) : Except Error α := do
  let value ← s.get key
  let d ← s.registry.require key
  converted d.name value expected (read value)

def getInteger (s : Store) (w : Width) (key : KeyRef) : Except Error Int :=
  s.getAs key w.name (Conversion.bounded w)

def getFloat (s : Store) (key : KeyRef) : Except Error Double :=
  s.getAs key "float" Conversion.double

def getDouble (s : Store) (key : KeyRef) : Except Error Double :=
  s.getAs key "double" Conversion.double

def getCharacter (s : Store) (key : KeyRef) : Except Error CodePoint :=
  s.getAs key "char" Conversion.character

def getBoolean (s : Store) (key : KeyRef) : Except Error Bool :=
  s.getAs key "boolean" Conversion.boolean

def getList (s : Store) (key : KeyRef) (type : ElementType α) (delimiter : Text) :
    Except Error (List α) :=
  match type with
  | .unsupported shown => .error (.notElementType shown)
  | .element e => do
    let value ← s.get key
    let fields ← split delimiter value
    let d ← s.registry.require key
    converted d.name value ("list of " ++ e.name.getD "values") (fields.mapM e.convert)

end Store

end PropertyFile
