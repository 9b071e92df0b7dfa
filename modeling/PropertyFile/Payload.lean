import PropertyFile.Conversion
import PropertyFile.Double.Shortest
import PropertyFile.Text.Literal

/-! Decoded data of a schema file; data of any other kind counts as the text it is shown as. -/

namespace PropertyFile

inductive Payload
  | null
  | boolean (b : Bool)
  | integer (i : Int)
  | number (x : Double)
  | text (t : Text)
  | list (l : List Payload)
  | mapping (m : List (Payload × Payload))
  deriving Inhabited

namespace Payload

def layout : Double.Layout := ⟨-4, 16, 2⟩

def integerText (i : Int) : Except Error Text :=
  if Double.digitCount i.natAbs ≤ digitLimit then .ok (Text.ofInt i)
  else .error (.integerTooLong none)

mutual

def inner : Payload → Except Error Text
  | .null => .ok "None"
  | .boolean b => .ok (if b then "True" else "False")
  | .integer i => integerText i
  | .number x => .ok (x.text layout)
  | .text t => .ok (Text.literal t)
  | .list l => (inners l).map fun ts => "[" ++ Text.joined ", " ts ++ "]"
  | .mapping m => (innerPairs m).map fun ts => "\x7b" ++ Text.joined ", " ts ++ "\x7d"

def inners : List Payload → Except Error (List Text)
  | [] => .ok []
  | p :: l => do
    let t ← inner p
    let ts ← inners l
    .ok (t :: ts)

def innerPairs : List (Payload × Payload) → Except Error (List Text)
  | [] => .ok []
  | (k, v) :: m => do
    let s ← inner k
    let t ← inner v
    let ts ← innerPairs m
    .ok ((s ++ ": " ++ t) :: ts)

end

def shown : Payload → Except Error Text
  | .text t => .ok t
  | p => inner p

def optional (p : Payload) : Except Error (Option Text) :=
  match p with
  | .null => .ok none
  | _ => p.shown.map fun s => if Text.blank s then none else some (Text.trim s)

def permissive (p : Payload) : Except Error (Option Bool) :=
  match p with
  | .boolean b => .ok (some b)
  | _ => p.optional.map fun t => t.bind Conversion.permissive?

def whole? : Payload → Option Int
  | .boolean b => some b.toNat
  | .integer i => some i
  | _ => none

def sameKey : Payload → Payload → Bool
  | .null, .null => true
  | .text s, .text t => s == t
  | .number x, .number y => x.equals y
  | .number x, p | p, .number x => p.whole?.any x.equalsInt
  | p, q => match p.whole?, q.whole? with
    | some i, some j => i == j
    | _, _ => false

abbrev Mapping := List (Payload × Payload)

namespace Mapping

def put (same : Payload → Payload → Bool) : Mapping → Payload → Payload → Mapping
  | [], k, v => [(k, v)]
  | (k, v) :: m, k', v' => if same k k' then (k, v') :: m else (k, v) :: put same m k' v'

def ofPairs (same : Payload → Payload → Bool) (pairs : List (Payload × Payload)) : Mapping :=
  pairs.foldl (fun m e => put same m e.1 e.2) []

def find? : Mapping → Text → Option Payload
  | [], _ => none
  | (k, v) :: m, name => if k.sameKey (.text name) then some v else find? m name

def others (m : Mapping) (names : List Text) : Except Error (List Text) :=
  let keys := (m.map Prod.fst).filter fun k => !names.any fun n => k.sameKey (.text n)
  (keys.mapM shown).map Text.sorted

end Mapping

end Payload

/-- A text that stands for no data, with what is wrong with it, or any other failure to read it. -/
inductive Decoder.Fault
  | notYaml (detail : Text)
  | other (e : Error)
  deriving DecidableEq, Repr

abbrev Decoder := Text → Except Decoder.Fault Payload

end PropertyFile
