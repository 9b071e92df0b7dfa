import PropertyFile.Descriptor
import PropertyFile.Text.Fields

/-! Enumerations of keys, where two members with one value are one member. -/

namespace PropertyFile

/-- What values that are no text and no descriptor are equal by: numbers by the integer that they
are, all else by a mark of its own for each class of equal values. -/
inductive Mark
  | integer (i : Int)
  | kind (n : Nat)
  deriving DecidableEq, Repr

inductive MemberValue
  | text (t : Text)
  | integer (i : Int)
  | descriptor (d : Descriptor)
  | other (mark : Mark) (sort shown : Text)
  deriving DecidableEq, Repr

namespace MemberValue

def mark? : MemberValue → Option Mark
  | .integer i => some (.integer i)
  | .other mark _ _ => some mark
  | _ => none

def same : MemberValue → MemberValue → Bool
  | .text s, .text t => s == t
  | .descriptor a, .descriptor b => a.same b
  | v, w => v.mark?.isSome && v.mark? == w.mark?

def sort : MemberValue → Text
  | .text _ => "str"
  | .integer _ => "int"
  | .descriptor _ => "KeyDescriptor"
  | .other _ sort _ => sort

def shown : MemberValue → Text
  | .text t => Text.literal t
  | .integer i => Text.ofInt i
  | .descriptor d => d.shown
  | .other _ _ shown => shown

def asText : MemberValue → Text
  | .text t => t
  | v => v.shown

def names : MemberValue → Except Error (List Text)
  | .text t => .ok (Text.words t)
  | v => .error (.notIterable v.sort)

end MemberValue

structure Member where
  label : Text
  value : MemberValue
  textual : Bool
  deriving DecidableEq, Repr

def Member.descriptor (m : Member) : Except Error Descriptor :=
  match m.value with
  | .descriptor d => .ok d
  | _ => Descriptor.plain m.label

inductive Role
  | member
  | own
  | order
  | ignored
  | reserved
  deriving DecidableEq, Repr

namespace Role

def withinSingle (t : Text) : Bool :=
  match t, t.reverse with
  | .char '_' :: a :: _ :: _, .char '_' :: b :: _ => a != '_' && b != '_'
  | _, _ => false

def withinDouble (t : Text) : Bool :=
  match t, t.reverse with
  | .char '_' :: .char '_' :: a :: _ :: _ :: _, .char '_' :: .char '_' :: b :: _ =>
    a != '_' && b != '_'
  | _, _ => false

def isPrivate (t : Text) : Bool :=
  let mark : Text := "_Keys__"
  mark.isPrefixOf t && decide (mark.length < t.length) && !("__" : Text).isSuffixOf t

def settings : List Text :=
  ["_generate_next_value_", "_numeric_repr_", "_missing_", "_iter_member_",
    "_iter_member_by_value_", "_iter_member_by_def_"]

def ofName (t : Text) : Role :=
  if isPrivate t then .own
  else if t = "_order_" || t = "__order__" then .order
  else if t = "_ignore_" then .ignored
  else if withinSingle t then if settings.contains t then .own else .reserved
  else if withinDouble t then .own
  else .member

end Role

abbrev Enumeration := List Member

namespace Enumeration

def distinct : Enumeration → List Member
  | [] => []
  | m :: e => m :: (distinct e).filter fun n => !m.value.same n.value

def member? (e : Enumeration) (label : Text) : Option Member :=
  match List.find? (fun m => m.label == label) e with
  | some m => (distinct e).find? fun n => n.value.same m.value
  | none => none

def refuse {α : Type} (p : EnumerationProblem) : Except Error α := .error (.enumeration p)

def member (e : Enumeration) (label : Text) : Except Error Member :=
  match e.member? label with
  | some m => .ok m
  | none => refuse (.noMember label)

structure Scope where
  values : List (Text × MemberValue)
  members : List Text
  ignored : List Text
  order : Option MemberValue

namespace Scope

def start : Scope := ⟨[], [], [], none⟩

def keep (s : Scope) (name : Text) (value : MemberValue) : Scope :=
  { s with values := (name, value) :: s.values }

def declareMember (s : Scope) (name : Text) (value : MemberValue) : Except Error Scope :=
  if s.ignored.contains name && !s.members.contains name then .ok (s.keep name value)
  else match s.values.lookup name with
    | some earlier => refuse (.alreadyDefined name earlier.shown)
    | none => .ok { s.keep name value with members := s.members ++ [name] }

def ignore (s : Scope) (names : List Text) : Except Error Scope :=
  match names.filter s.members.contains with
  | [] => .ok { s with ignored := names }
  | n :: ns => refuse (.ignoredMembers (n :: ns).eraseDups)

def declare (s : Scope) (name : Text) (value : MemberValue) : Except Error Scope :=
  match Role.ofName name with
  | .member => s.declareMember name value
  | .own => .ok (s.keep name value)
  | .order => .ok { s with order := some value }
  | .ignored => value.names.bind s.ignore
  | .reserved => refuse (.reserved name)

def operations : List Text :=
  ["__new__", "__getattribute__", "__getattr__", "__setattr__", "__init__"]

def refused : List Text := ["", "mro"]

def toEnumeration (s : Scope) (textual : Bool) : Except Error Enumeration :=
  let operation := operations.findSome? fun n => s.values.lookup n
  match refused.filter s.members.contains, operation with
  | [], none => .ok (s.members.filterMap fun name => (s.values.lookup name).map fun v =>
      ⟨name, if textual then .text v.asText else v, textual⟩)
  | [], some v => if s.members.isEmpty then .ok [] else refuse (.notCallable v.sort)
  | names, _ => refuse (.invalid names)

end Scope

def inOrder (e : Enumeration) (names : List Text) : Except Error Enumeration :=
  let labels := (distinct e).map Member.label
  let named := names.filter fun n => labels.contains n || !(e.map Member.label).contains n
  if names.isEmpty || named = labels then .ok e else refuse (.otherOrder labels named)

def ordered (e : Enumeration) : Option MemberValue → Except Error Enumeration
  | none => .ok e
  | some v => if v.mark? = some (.integer 0) then .ok e else v.names.bind e.inOrder

def make (textual : Bool) (entries : List (Text × MemberValue)) : Except Error Enumeration := do
  let s ← entries.foldlM (fun s e => s.declare e.1 e.2) Scope.start
  let e ← s.toEnumeration textual
  e.ordered s.order

end Enumeration

end PropertyFile
