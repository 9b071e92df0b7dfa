import PropertyFile.Text.Literal
import PropertyFile.Text.Utf8

/-! Everything that can go wrong: faults of the schema, the property file or a value, each of a
stage, and faults of a caller or of outer limits. -/

namespace PropertyFile

inductive Stage
  | schema
  | read
  | validate
  | substitute
  | convert
  deriving DecidableEq, Repr

def Stage.name : Stage → Text
  | .schema => "schema"
  | .read => "read"
  | .validate => "validate"
  | .substitute => "substitute"
  | .convert => "convert"

inductive SchemaProblem
  | notMapping
  | unsupportedKeys (names : List Text)
  | blankName
  | notEntry (name : Text)
  | unsupportedFields (name : Text) (fields : List Text)
  | notBoolean (name : Text)
  deriving DecidableEq, Repr

inductive ConfigError
  | emptySchema
  | schemaUnreadable (path reason : Text)
  | schemaNotYaml (path detail : Text)
  | schemaInvalid (label : Text) (problem : SchemaProblem)
  | defaultNotScalar
  | fileMissing (path : Text)
  | fileUndecodable (path : Text) (reason : Utf8.Reason)
  | fileUnreadable (path reason : Text)
  | malformedLine (number : Nat) (line : Text)
  | unknownKey (name : Text)
  | missingMandatoryKey (name : Text)
  | cyclicReference (chain : List Text)
  | invalidValue (name value expected : Text)
  deriving DecidableEq, Repr, Inhabited

namespace ConfigError

def kind : ConfigError → Text
  | .emptySchema => "EmptySchema"
  | .schemaUnreadable .. | .schemaNotYaml .. | .schemaInvalid .. | .defaultNotScalar =>
    "SchemaFileInvalid"
  | .fileMissing .. | .fileUndecodable .. | .fileUnreadable .. => "ConfigFileUnavailable"
  | .malformedLine .. => "MalformedLine"
  | .unknownKey .. => "UnknownKey"
  | .missingMandatoryKey .. => "MissingMandatoryKey"
  | .cyclicReference .. => "CyclicReference"
  | .invalidValue .. => "InvalidConfigValue"

def stage : ConfigError → Stage
  | .emptySchema | .schemaUnreadable .. | .schemaNotYaml .. | .schemaInvalid ..
  | .defaultNotScalar => .schema
  | .fileMissing .. | .fileUndecodable .. | .fileUnreadable .. | .malformedLine ..
  | .unknownKey .. => .read
  | .missingMandatoryKey .. => .validate
  | .cyclicReference .. => .substitute
  | .invalidValue .. => .convert

def hint : ConfigError → Option Text
  | .emptySchema => some "Declare at least one key in the schema."
  | .schemaUnreadable .. => some "Provide an existing schema via `--schema <path.yaml>`."
  | .fileMissing .. => some "Provide an existing property file path."
  | .fileUnreadable .. => some "Verify file permissions."
  | .malformedLine .. => some "Use exactly one `=` per entry and a non-empty key."
  | .unknownKey .. => some "Declare the key in the schema or remove it from the file."
  | .cyclicReference .. => some "Break the cycle so every reference ends at a plain value."
  | _ => none

end ConfigError

open Text (quoted joined literal literals ofNat)

def SchemaProblem.message (label : Text) : SchemaProblem → Text
  | .notMapping => label ++ " must contain a top-level mapping/object."
  | .unsupportedKeys names => label ++ " includes unsupported key(s): " ++ joined ", " names ++ "."
  | .blankName => label ++ " contains a blank key name."
  | .notEntry name => label ++ " key " ++ quoted name ++ " must be a mapping/object."
  | .unsupportedFields name fields =>
    label ++ " key " ++ quoted name ++ " includes unsupported field(s): " ++
      joined ", " fields ++ "."
  | .notBoolean name =>
    label ++ " key " ++ quoted name ++ " field `mandatory` must be a boolean value " ++
      "(`true`/`false`, `1`/`0`, `yes`/`no`)."

def ConfigError.message : ConfigError → Text
  | .emptySchema => "Key schema does not declare any key."
  | .schemaUnreadable path reason =>
    "Schema file " ++ quoted path ++ " cannot be read: " ++ reason ++ "."
  | .schemaNotYaml path detail =>
    "Schema file " ++ quoted path ++ " is not valid YAML: " ++ detail
  | .schemaInvalid label problem => problem.message label
  | .defaultNotScalar => "Schema field `default` must be a scalar value."
  | .fileMissing path => "Config file not found: " ++ quoted path ++ "."
  | .fileUndecodable path reason =>
    "Config file " ++ quoted path ++ " is not valid UTF-8: " ++ reason.text ++ "."
  | .fileUnreadable path reason =>
    "Cannot read config file " ++ quoted path ++ ": " ++ reason ++ "."
  | .malformedLine number line => "Invalid line " ++ ofNat number ++ ": " ++ quoted line ++ "."
  | .unknownKey name => "Unrecognized configuration key " ++ quoted name ++ "."
  | .missingMandatoryKey name => "Missing mandatory configuration key " ++ quoted name ++ "."
  | .cyclicReference chain => "Cyclic variable reference: " ++ joined " -> " chain ++ "."
  | .invalidValue name value expected =>
    "Value " ++ quoted value ++ " of " ++ quoted name ++ " is not a valid " ++ expected ++ "."

inductive EnumerationProblem
  | reserved (name : Text)
  | alreadyDefined (name shown : Text)
  | ignoredMembers (names : List Text)
  | invalid (names : List Text)
  | notCallable (sort : Text)
  | noMember (name : Text)
  | otherOrder (members named : List Text)
  deriving DecidableEq, Repr

def EnumerationProblem.message : EnumerationProblem → Text
  | .reserved name =>
    "_sunder_ names, such as " ++ literal name ++ ", are reserved for future Enum use"
  | .alreadyDefined name shown => literal name ++ " already defined as " ++ shown
  | .ignoredMembers names =>
    "_ignore_ cannot specify already set names: \x7b" ++ literals names ++ "\x7d"
  | .invalid names => "invalid enum member name(s) " ++ joined "," (names.map literal)
  | .notCallable sort => "'" ++ sort ++ "' object is not callable"
  | .noMember name => literal name
  | .otherOrder members named =>
    "member order does not match _order_:\n  [" ++ literals members ++ "]\n  [" ++
      literals named ++ "]"

inductive LogProblem
  | unknownLevel (name : Text)
  | negativeLevel (severity : Int)
  | notLevel (sort : Text)
  | takenName (operation name : Text)
  deriving DecidableEq, Repr

def LogProblem.message : LogProblem → Text
  | .unknownLevel name => "Level '" ++ name ++ "' does not exist"
  | .negativeLevel severity =>
    "Invalid level value, it should be a positive integer, not: " ++ Text.ofInt severity
  | .notLevel sort =>
    "Invalid level, it should be an integer or a string, not: '" ++ sort ++ "'"
  | .takenName operation name =>
    operation ++ "() got multiple values for argument '" ++ name ++ "'"

inductive Error
  | config (e : ConfigError)
  | enumeration (p : EnumerationProblem)
  | log (p : LogProblem)
  | blankName
  | notKey (shown : Text)
  | singleText
  | notIterable (sort : Text)
  | notElementType (shown : Text)
  | emptyDelimiter
  | embeddedNul
  | undecodable (f : Utf8.Fault)
  | unencodable (f : Utf8.EncodingFault)
  | integerTooLong (digits : Option Nat)
  | noDigits (base : Nat)
  | beyondDoubles
  | noCodePoint
  | beyondWords
  | outside (kind message : Text)
  deriving DecidableEq, Repr, Inhabited

instance : Coe ConfigError Error := ⟨.config⟩

def digitLimit : Nat := 4300

def Error.message : Error → Text
  | .config e => e.message
  | .enumeration p => p.message
  | .log p => p.message
  | .blankName => "`name` must be a non-empty string."
  | .notKey shown => "Unsupported key schema entry: " ++ shown ++ "."
  | .singleText => "A key schema must be an iterable of keys, not a single string."
  | .notIterable sort => "'" ++ sort ++ "' object is not iterable"
  | .notElementType shown => "Unsupported list element type: " ++ shown ++ "."
  | .emptyDelimiter => "`delimiter` must be a non-empty string."
  | .embeddedNul => "embedded null byte"
  | .undecodable f => f.message
  | .unencodable f => f.message
  | .integerTooLong digits =>
    let size : Text := match digits with
      | some n => ": value has " ++ ofNat n ++ " digits"
      | none => []
    "Exceeds the limit (" ++ ofNat digitLimit ++ " digits) for integer string conversion" ++ size ++
      "; use sys.set_int_max_str_digits() to increase the limit"
  | .noDigits base => "invalid literal for int() with base " ++ ofNat base ++ ": ''"
  | .beyondDoubles => "int too large to convert to float"
  | .noCodePoint => "chr() arg not in range(0x110000)"
  | .beyondWords => "Python int too large to convert to C int"
  | .outside _ message => message

end PropertyFile
