import PropertyFile.Key

/-! The declared keys of a schema, in the order of their first declarations and each as its last one
says. -/

namespace PropertyFile

structure Registry where
  descriptors : List Descriptor
  nonempty : descriptors ≠ []
  nodup : (descriptors.map Descriptor.name).Nodup
  deriving DecidableEq, Repr

namespace Registry

def declare : List Descriptor → Descriptor → List Descriptor
  | [], d => [d]
  | e :: ds, d => if e.name = d.name then d :: ds else e :: declare ds d

def collect (ds : List Descriptor) : List Descriptor := ds.foldl declare []

theorem names_declare (ds : List Descriptor) (d : Descriptor) :
    (declare ds d).map Descriptor.name =
      if d.name ∈ ds.map Descriptor.name then ds.map Descriptor.name
      else ds.map Descriptor.name ++ [d.name] := by
  induction ds with
  | nil => simp [declare]
  | cons e ds ih =>
    by_cases h : e.name = d.name
    · simp [declare, h]
    · have h' : d.name ≠ e.name := fun x => h x.symm
      by_cases hm : d.name ∈ ds.map Descriptor.name
      · rw [if_pos hm] at ih
        rw [if_pos (by simp_all)]
        simp [declare, h, ih]
      · rw [if_neg hm] at ih
        rw [if_neg (by simp_all)]
        simp [declare, h, ih]

theorem nodup_declare {ds : List Descriptor} (h : (ds.map Descriptor.name).Nodup)
    (d : Descriptor) : ((declare ds d).map Descriptor.name).Nodup := by
  rw [names_declare]
  split
  · exact h
  · rename_i hm
    refine List.nodup_append.2 ⟨h, by simp, fun x hx y hy e => hm ?_⟩
    rw [List.mem_singleton] at hy
    rwa [← hy, ← e]

theorem nodup_foldl_declare (ds : List Descriptor) {es : List Descriptor}
    (h : (es.map Descriptor.name).Nodup) : ((ds.foldl declare es).map Descriptor.name).Nodup := by
  induction ds generalizing es with
  | nil => exact h
  | cons d ds ih => exact ih (nodup_declare h d)

theorem nodup_collect (ds : List Descriptor) : ((collect ds).map Descriptor.name).Nodup :=
  nodup_foldl_declare ds (by simp)

def ofDescriptors (ds : List Descriptor) : Except Error Registry :=
  if h : collect ds = [] then .error ConfigError.emptySchema
  else .ok ⟨collect ds, h, nodup_collect ds⟩

def ofEntries (entries : List KeyRef) : Except Error Registry := do
  ofDescriptors (← entries.mapM KeyRef.descriptor?)

def names (r : Registry) : List Text := r.descriptors.map Descriptor.name

def size (r : Registry) : Nat := r.descriptors.length

def find? (r : Registry) (name : Text) : Option Descriptor :=
  r.descriptors.find? fun d => d.name == name

def declares (r : Registry) (name : Text) : Bool := r.names.contains name

def contains (r : Registry) : KeyRef → Bool
  | .name t => r.declares t
  | .member ⟨_, .text t, true⟩ => r.declares t
  | _ => false

def require (r : Registry) (key : KeyRef) : Except Error Descriptor := do
  let name ← key.name?
  match r.find? name with
  | some d => .ok d
  | none => .error (ConfigError.unknownKey name)

def mandatory (r : Registry) : List Descriptor := r.descriptors.filter Descriptor.mandatory

def text (r : Registry) : Text := "KeyRegistry(" ++ Text.joined ", " r.names ++ ")"

theorem name_of_find? {r : Registry} {name : Text} {d : Descriptor} (h : r.find? name = some d) :
    d.name = name := by
  simpa using List.find?_some h

theorem find?_isSome (r : Registry) (name : Text) : (r.find? name).isSome = r.declares name := by
  unfold find? declares names
  induction r.descriptors with
  | nil => rfl
  | cons d ds ih =>
    by_cases h : d.name = name
    · simp [h]
    · have h' : name ≠ d.name := fun x => h x.symm
      simpa [List.find?_cons, h, h'] using ih

end Registry

inductive SchemaSource
  | entries (l : List KeyRef)
  | enumeration (e : Enumeration)
  | registry (r : Registry)
  | text
  | scalar (sort : Text)

def Registry.ofSource : SchemaSource → Except Error Registry
  | .entries l => ofEntries l
  | .enumeration e => ofEntries (e.distinct.map .member)
  | .registry r => .ok r
  | .text => .error .singleText
  | .scalar sort => .error (.notIterable sort)

end PropertyFile
