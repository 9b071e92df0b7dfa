import PropertyFile.Proofs.Defaults
import PropertyFile.Proofs.Ledgers
import PropertyFile.Proofs.Operations

/-! Runs whose steps differ in how they refer to keys answer alike and hold the same values all
along. -/

namespace PropertyFile

inductive Query : Type → Type 1
  | text : Query Text
  | integer (w : Width) : Query Int
  | float : Query Double
  | double : Query Double
  | character : Query CodePoint
  | boolean : Query Bool
  | list {α : Type} (type : ElementType α) (delimiter : Text) : Query (List α)
  | contained : Query Bool

inductive Step : Type 1
  | perform (op : Operation)
  | validate (r : Option Registry)
  | ask {α : Type} (q : Query α) (key : KeyRef)
  | size
  | index

abbrev Answer := Σ α : Type, Except Error α

structure Event where
  answer : Answer
  notes : List Note
  values : Index Text

def Answer.ofFailure (failure : Option Error) : Answer :=
  ⟨Unit, match failure with
    | some e => .error e
    | none => .ok ()⟩

namespace Store

variable {α : Type}

def ask (s : Store) (key : KeyRef) : Query α → Except Error α
  | .text => s.get key
  | .integer w => s.getInteger w key
  | .float => s.getFloat key
  | .double => s.getDouble key
  | .character => s.getCharacter key
  | .boolean => s.getBoolean key
  | .list type delimiter => s.getList key type delimiter
  | .contained => s.contains key

def take (s : Store) : Step → Event × Store
  | .perform op => (⟨.ofFailure (op.change s).failure, (op.change s).notes,
      (op.change s).store.values⟩, (op.change s).store)
  | .validate r => (⟨⟨Unit, s.validate (r.getD s.registry)⟩, [], s.values⟩, s)
  | .ask q key => (⟨⟨_, s.ask key q⟩, [], s.values⟩, s)
  | .size => (⟨⟨Nat, .ok s.size⟩, [], s.values⟩, s)
  | .index => (⟨⟨Index Text, .ok s.toIndex⟩, [], s.values⟩, s)

def trace (s : Store) : List Step → List Event
  | [] => []
  | step :: steps => (s.take step).1 :: trace (s.take step).2 steps

end Store

namespace Ledger

variable {α : Type}

def change (l : Ledger) : Operation → Change
  | .put d value => l.put d value
  | .set key value => setUnder l.registry l key value
  | .read ls broken => readFrom l.registry broken 1 none l ls
  | .resolve => l.resolveAll

def ask (l : Ledger) (key : KeyRef) : Query α → Except Error α
  | .text => l.get key
  | .integer w => l.getAs key w.name (Conversion.bounded w)
  | .float => l.getAs key "float" Conversion.double
  | .double => l.getAs key "double" Conversion.double
  | .character => l.getAs key "char" Conversion.character
  | .boolean => l.getAs key "boolean" Conversion.boolean
  | .list type delimiter => l.getList key type delimiter
  | .contained => l.contains key

def take (l : Ledger) : Step → Event × Ledger
  | .perform op => (⟨.ofFailure (l.change op).failure, (l.change op).notes,
      (l.change op).ledger.kept.index⟩, (l.change op).ledger)
  | .validate r => (⟨⟨Unit, l.validate (r.getD l.registry)⟩, [], l.kept.index⟩, l)
  | .ask q key => (⟨⟨_, l.ask key q⟩, [], l.kept.index⟩, l)
  | .size => (⟨⟨Nat, .ok l.size⟩, [], l.kept.index⟩, l)
  | .index => (⟨⟨Index Text, .ok l.toIndex⟩, [], l.kept.index⟩, l)

def trace (l : Ledger) : List Step → List Event
  | [] => []
  | step :: steps => (l.take step).1 :: trace (l.take step).2 steps

lemma toChange_change (l : Ledger) (op : Operation) :
    (l.change op).toChange = op.change l.toStore := by
  cases op with
  | put d v => exact toChange_put l d v
  | set key v => exact toChange_setUnder l.registry l key v
  | read ls broken => exact toChange_readFrom l.registry broken 1 none l ls
  | resolve => exact toChange_resolveAll l

lemma ask_toStore (l : Ledger) (key : KeyRef) (q : Query α) :
    l.ask key q = l.toStore.ask key q := by
  cases q with
  | text => exact get_toStore l key
  | integer w => exact getAs_toStore l key _ _
  | float => exact getAs_toStore l key _ _
  | double => exact getAs_toStore l key _ _
  | character => exact getAs_toStore l key _ _
  | boolean => exact getAs_toStore l key _ _
  | list type delimiter => exact getList_toStore l key type delimiter
  | contained => exact contains_toStore l key

lemma take_toStore (l : Ledger) (step : Step) :
    ((l.take step).1, (l.take step).2.toStore) = l.toStore.take step := by
  cases step with
  | perform op =>
    rw [Store.take, ← toChange_change]
    rfl
  | validate r =>
    rw [take, validate_toStore]
    rfl
  | ask q key =>
    rw [take, ask_toStore]
    rfl
  | size =>
    have hsize : l.size = l.toStore.size := (List.length_map _).symm
    rw [take, hsize]
    rfl
  | index =>
    rw [take, toIndex_toStore]
    rfl

theorem trace_toStore (l : Ledger) (steps : List Step) : l.trace steps = l.toStore.trace steps := by
  induction steps generalizing l with
  | nil => rfl
  | cons step steps ih => rw [trace, Store.trace, ih, ← take_toStore]

end Ledger

section Alike

def KeyRef.Same (k k' : KeyRef) : Prop := k.name? = k'.name?

inductive Operation.Alike : Operation → Operation → Prop
  | put {d d' : Descriptor} (v : Text) : d.name = d'.name → Alike (.put d v) (.put d' v)
  | set {k k' : KeyRef} (v : Text) : k.Same k' → Alike (.set k v) (.set k' v)
  | read (ls : List Text) (broken : Option Error) : Alike (.read ls broken) (.read ls broken)
  | resolve : Alike .resolve .resolve

inductive Step.Alike : Step → Step → Prop
  | perform {op op' : Operation} : op.Alike op' → Alike (.perform op) (.perform op')
  | validate (r : Option Registry) : Alike (.validate r) (.validate r)
  | ask {α : Type} {k k' : KeyRef} (q : Query α) : k.Same k' → Alike (.ask q k) (.ask q k')
  | size : Alike .size .size
  | index : Alike .index .index

variable {k k' : KeyRef} {op op' : Operation} {step step' : Step} {α : Type}

lemma Registry.require_congr (r : Registry) (h : k.Same k') : r.require k = r.require k' := by
  unfold require
  rw [h]

namespace Store

lemma contains_eq (s : Store) (k : KeyRef) :
    s.contains k = match k.name? with
      | .ok name => .ok (s.storedValue? name).isSome
      | .error (.notKey _) => .ok false
      | .error e => .error e := by
  cases k with
  | name t => rfl
  | descriptor d => rfl
  | other shown => rfl
  | member m =>
    rw [contains, KeyRef.name?, KeyRef.descriptor?]
    cases hm : m.descriptor with
    | ok d => rfl
    | error e =>
      rw [Member.descriptor_error hm]
      rfl
    all_goals simp

lemma contains_congr (s : Store) (h : k.Same k') : s.contains k = s.contains k' := by
  rw [contains_eq, contains_eq, h]

lemma get_congr (s : Store) (h : k.Same k') : s.get k = s.get k' := by
  unfold get
  rw [s.registry.require_congr h]

lemma getAs_congr (s : Store) (h : k.Same k') (expected : Text)
    (read : Text → Except Conversion.Fault α) :
    s.getAs k expected read = s.getAs k' expected read := by
  unfold getAs
  rw [get_congr s h, s.registry.require_congr h]

lemma getList_congr (s : Store) (h : k.Same k') (type : ElementType α) (delimiter : Text) :
    s.getList k type delimiter = s.getList k' type delimiter := by
  unfold getList
  rw [get_congr s h, s.registry.require_congr h]

lemma ask_congr (s : Store) (h : k.Same k') (q : Query α) : s.ask k q = s.ask k' q := by
  cases q with
  | text => exact get_congr s h
  | integer w => exact getAs_congr s h _ _
  | float => exact getAs_congr s h _ _
  | double => exact getAs_congr s h _ _
  | character => exact getAs_congr s h _ _
  | boolean => exact getAs_congr s h _ _
  | list type delimiter => exact getList_congr s h type delimiter
  | contained => exact contains_congr s h

lemma change_congr (s : Store) (h : op.Alike op') : op.change s = op'.change s := by
  cases h with
  | put v hd => rw [Operation.change, Operation.change, hd]
  | set v hk =>
    rw [Operation.change, Operation.change, Store.set, Store.set, setUnder,
      s.registry.require_congr hk]
    rfl
  | read ls broken => rfl
  | resolve => rfl

lemma take_congr (s : Store) (h : step.Alike step') : s.take step = s.take step' := by
  cases h with
  | perform hop => rw [take, take, change_congr s hop]
  | validate r => rfl
  | ask q hk => rw [take, take, ask_congr s hk]
  | size => rfl
  | index => rfl

theorem trace_congr (s : Store) {steps steps' : List Step}
    (h : List.Forall₂ Step.Alike steps steps') : s.trace steps = s.trace steps' := by
  induction h generalizing s with
  | nil => rfl
  | cons hstep _ ih => rw [trace, trace, take_congr s hstep, ih]

end Store

namespace Ledger

lemma get_of_find? (l : Ledger) {key : KeyRef} {n : Text} {d : Descriptor}
    (hkey : key.name? = .ok n) (hd : l.registry.find? n = some d) :
    l.registry.require key = .ok d ∧ l.get key =
      if (l.kept.index.find? n).getD [] = [] then
        (resolve (Store.visible l.registry l.kept.index) none d.default).outcome.mapError fun c =>
          .config (.cyclicReference c)
      else .ok ((l.kept.index.find? n).getD []) := by
  have hrequire : l.registry.require key = .ok d := by
    simp [Registry.require, hkey, hd, bind, Except.bind]
  refine ⟨hrequire, ?_⟩
  obtain rfl := Registry.name_of_find? hd
  rw [get_toStore]
  exact Store.get_of_require hrequire

lemma validate_error_iff (l : Ledger) (r : Registry) (e : Error) : l.validate r = .error e ↔
    ∃ d, (r.mandatory.find? fun d => decide (d.name ∉ l.kept.index.names)) = some d ∧
      e = .config (.missingMandatoryKey d.name) := by
  rw [validate_toStore]
  refine ⟨Store.validate_error, ?_⟩
  rintro ⟨d, hd, rfl⟩
  exact Store.validate_of_missing hd

theorem trace_alike (l l' : Ledger) (steps steps' : List Step) (hl : l.toStore = l'.toStore)
    (h : List.Forall₂ Step.Alike steps steps') :
    l.trace steps = l'.trace steps' ∧ l.toStore.trace steps = l.trace steps ∧
    (∀ key n d, key.name? = .ok n → l.registry.find? n = some d →
      l.registry.require key = .ok d ∧ l.get key =
        if (l.kept.index.find? n).getD [] = [] then
          (resolve (Store.visible l.registry l.kept.index) none d.default).outcome.mapError fun c =>
            .config (.cyclicReference c)
        else .ok ((l.kept.index.find? n).getD [])) ∧
    ∀ r e, l.validate r = .error e ↔
      ∃ d, (r.mandatory.find? fun d => decide (d.name ∉ l.kept.index.names)) = some d ∧
        e = .config (.missingMandatoryKey d.name) := by
  refine ⟨?_, (trace_toStore l steps).symm, fun key n d => l.get_of_find?, l.validate_error_iff⟩
  rw [trace_toStore, trace_toStore, hl]
  exact Store.trace_congr _ h

theorem trace_alike_stale :
    let name := Text.ofChars ['A', 'B']
    let d : Descriptor := ⟨name, false, Text.ofChars ['x'], rfl⟩
    let d' : Descriptor := ⟨Text.ofChars ['C', 'D'], true, [], rfl⟩
    let r : Registry := ⟨[d, d'], by simp, by decide⟩
    let l : Ledger := ⟨r, [(⟨name, true, Text.ofChars ['y'], rfl⟩, [])], by decide⟩
    let l' : Ledger := ⟨r, [(⟨name, false, [], rfl⟩, [])], by decide⟩
    let key : KeyRef := .descriptor ⟨name, true, Text.ofChars ['z'], rfl⟩
    let key' : KeyRef := .member ⟨name, .integer 1, false⟩
    let steps : List Step := [.ask .text key, .perform (.set key []), .validate none]
    let steps' : List Step := [.ask .text key', .perform (.set key' []), .validate none]
    (l.toStore = l'.toStore ∧ List.Forall₂ Step.Alike steps steps') ∧
    l.trace steps = l'.trace steps' ∧ l.get key = .ok (Text.ofChars ['x']) ∧
    l.validate r = .error (ConfigError.missingMandatoryKey d'.name) := by
  intro name d d' r l l' key key' steps steps'
  have hsame : key.Same key' := rfl
  have halike : List.Forall₂ Step.Alike steps steps' :=
    .cons (.ask .text hsame) (.cons (.perform (.set [] hsame)) (.cons (.validate none) .nil))
  obtain ⟨htrace, -, hget, hvalidate⟩ := trace_alike l l' steps steps' rfl halike
  refine ⟨⟨rfl, halike⟩, htrace, ?_, ?_⟩
  · have hempty : (l.kept.index.find? name).getD [] = [] := rfl
    have hnames : Reference.names d.default = [] := by decide
    rw [(hget key name d rfl rfl).2, if_pos hempty, resolve, hnames, Resolution.outcome_nil]
    rfl
  · exact (hvalidate r _).mpr ⟨d', rfl, rfl⟩

end Ledger

end Alike

end PropertyFile
