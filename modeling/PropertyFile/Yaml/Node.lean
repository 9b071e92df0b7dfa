import PropertyFile.Yaml.Token

/-! The tree that the tokens of a YAML document describe. -/

namespace PropertyFile.Yaml

inductive Node
  | scalar (plain : Bool) (t : Text)
  | list (l : List Node)
  | mapping (m : List (Node × Node))

namespace Node

def empty : Node := .scalar true []

def endsItem (closed : Bool) : List Token → Bool
  | .entry :: _ | .blockEnd :: _ => true
  | .key :: _ | .value :: _ => !closed
  | _ => false

def endsBlockValue : List Token → Bool
  | .key :: _ | .value :: _ | .blockEnd :: _ => true
  | _ => false

def endsFlowValue : List Token → Bool
  | .flowEntry :: _ | .flowSequenceEnd :: _ | .flowMappingEnd :: _ => true
  | _ => false

def endsFlowKey : List Token → Bool
  | .value :: _ => true
  | ts => endsFlowValue ts

def unexpected {α : Type} : List Token → Except Fault α
  | .fault f :: _ => .error f
  | _ => .error .notYaml

def separated (first : Bool) : List Token → Except Fault (List Token)
  | .flowEntry :: ts => if first then .ok (.flowEntry :: ts) else .ok ts
  | ts => if first then .ok ts else unexpected ts

mutual

def read (block bare : Bool) : Nat → List Token → Except Fault (Node × List Token)
  | 0, _ => .error .notYaml
  | fuel + 1, ts =>
    match ts with
    | .scalar plain t :: ts => .ok (.scalar plain t, ts)
    | .flowSequenceStart :: ts => (readFlowList true fuel ts).map fun (l, ts) => (.list l, ts)
    | .flowMappingStart :: ts => (readFlowMapping true fuel ts).map fun (m, ts) => (.mapping m, ts)
    | .sequenceStart :: ts =>
      if block then (readList true fuel ts).map fun (l, ts) => (.list l, ts)
      else .error .notYaml
    | .mappingStart :: ts =>
      if block then (readMapping fuel ts).map fun (m, ts) => (.mapping m, ts)
      else .error .notYaml
    | .entry :: ts =>
      if bare then (readList false fuel (.entry :: ts)).map fun (l, ts) => (.list l, ts)
      else .error .notYaml
    | ts => unexpected ts

def readList (closed : Bool) : Nat → List Token → Except Fault (List Node × List Token)
  | 0, _ => .error .notYaml
  | fuel + 1, ts =>
    match ts with
    | .entry :: ts => do
      let (n, ts) ← if endsItem closed ts then .ok (empty, ts) else read true false fuel ts
      let (l, ts) ← readList closed fuel ts
      .ok (n :: l, ts)
    | .blockEnd :: ts => if closed then .ok ([], ts) else .ok ([], .blockEnd :: ts)
    | ts => if closed then unexpected ts else .ok ([], ts)

def readMapping : Nat → List Token → Except Fault (List (Node × Node) × List Token)
  | 0, _ => .error .notYaml
  | fuel + 1, ts =>
    match ts with
    | .key :: ts => do
      let (k, ts) ← if endsBlockValue ts then .ok (empty, ts) else read true true fuel ts
      let (v, ts) ← match ts with
        | .value :: ts => if endsBlockValue ts then .ok (empty, ts) else read true true fuel ts
        | ts => .ok (empty, ts)
      let (m, ts) ← readMapping fuel ts
      .ok ((k, v) :: m, ts)
    | .blockEnd :: ts => .ok ([], ts)
    | ts => unexpected ts

def readFlowValue : Nat → List Token → Except Fault (Node × List Token)
  | 0, _ => .error .notYaml
  | fuel + 1, ts =>
    match ts with
    | .value :: ts => if endsFlowValue ts then .ok (empty, ts) else read false false fuel ts
    | ts => .ok (empty, ts)

def readFlowList (first : Bool) : Nat → List Token → Except Fault (List Node × List Token)
  | 0, _ => .error .notYaml
  | fuel + 1, ts =>
    match ts with
    | .flowSequenceEnd :: ts => .ok ([], ts)
    | ts => do
      match ← separated first ts with
      | .flowSequenceEnd :: ts => .ok ([], ts)
      | .key :: ts =>
        let (k, ts) ← if endsFlowKey ts then .ok (empty, ts) else read false false fuel ts
        let (v, ts) ← readFlowValue fuel ts
        let (l, ts) ← readFlowList false fuel ts
        .ok (.mapping [(k, v)] :: l, ts)
      | ts =>
        let (n, ts) ← read false false fuel ts
        let (l, ts) ← readFlowList false fuel ts
        .ok (n :: l, ts)

def readFlowMapping (first : Bool) :
    Nat → List Token → Except Fault (List (Node × Node) × List Token)
  | 0, _ => .error .notYaml
  | fuel + 1, ts =>
    match ts with
    | .flowMappingEnd :: ts => .ok ([], ts)
    | ts => do
      match ← separated first ts with
      | .flowMappingEnd :: ts => .ok ([], ts)
      | .key :: ts =>
        let (k, ts) ← if endsFlowKey ts then .ok (empty, ts) else read false false fuel ts
        let (v, ts) ← readFlowValue fuel ts
        let (m, ts) ← readFlowMapping false fuel ts
        .ok ((k, v) :: m, ts)
      | ts =>
        let (k, ts) ← read false false fuel ts
        let (m, ts) ← readFlowMapping false fuel ts
        .ok ((k, empty) :: m, ts)

end

def afterDocument (n : Option Node) (ts : List Token) : Except Fault (Option Node) :=
  match ts.dropWhile (· == .documentEnd) with
  | [] => .ok n
  | ts => unexpected ts

def document (ts : List Token) : Except Fault (Option Node) :=
  let root (ts : List Token) : Except Fault (Option Node) :=
    (read true false (2 * ts.length + 2) ts).bind fun (n, ts) => afterDocument (some n) ts
  match ts with
  | [] => .ok none
  | .documentStart :: .documentStart :: _ => .error .notYaml
  | .documentStart :: .documentEnd :: ts => afterDocument (some empty) ts
  | [.documentStart] => .ok (some empty)
  | .documentStart :: ts => root ts
  | ts => root ts

def ofTokens (ts : List Token) : Except Fault (Option Node) :=
  let directives := ts.takeWhile fun t => t.directive?.isSome
  let rest := ts.drop directives.length
  if !Directive.agree (directives.filterMap Token.directive?) then .error .notYaml
  else if directives.isEmpty || rest.head? == some .documentStart then document rest
  else unexpected rest

end Node

end PropertyFile.Yaml
