import PropertyFile.Yaml.Node

/-! The data that a YAML tree stands for, where of several faults the outermost counts. -/

namespace PropertyFile.Yaml.Node

abbrev Value (α : Type) := Except (Nat × Fault) α

namespace Value

variable {α β : Type}

def both (x : Value α) (y : Value β) : Value (α × β) :=
  match x, y with
  | .ok a, .ok b => .ok (a, b)
  | .error e, .ok _ => .error e
  | .ok _, .error f => .error f
  | .error e, .error f => .error (if f.1 < e.1 then f else e)

def inside (x : Value α) : Value α := x.mapError fun e => (e.1 + 1, e.2)

end Value

open Value (both inside)

def sameKey (k k' : Payload) : Bool :=
  match k, k' with
  | .number .nan, .number .nan => true
  | _, _ => k.sameKey k'

def scalarValue (plain : Bool) (t : Text) : Value Payload :=
  if plain then (Scalar.resolve t).mapError fun f => (0, f) else .ok (.text t)

def keyValue : Node → Value Payload
  | .scalar plain t => if t = ("=" : Text) then .ok (.text t) else scalarValue plain t
  | _ => .error (0, .notYaml)

mutual

def value : Node → Value Payload
  | .scalar plain t => scalarValue plain t
  | .list l => inside ((values l).map .list)
  | .mapping m => inside ((pairs m).map fun ps => .mapping (Payload.Mapping.ofPairs sameKey ps))

def values : List Node → Value (List Payload)
  | [] => .ok []
  | n :: l => (both (value n) (values l)).map fun p => p.1 :: p.2

def pairs : List (Node × Node) → Value (List (Payload × Payload))
  | [] => .ok []
  | (k, v) :: m => (both (both (keyValue k) (value v)) (pairs m)).map fun p => p.1 :: p.2

end

def payload (n : Node) : Except Fault Payload := n.value.mapError Prod.snd

end PropertyFile.Yaml.Node
