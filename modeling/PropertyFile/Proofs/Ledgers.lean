import PropertyFile.Ledger
import PropertyFile.Proofs.Pass

/-! What a ledger does shows in its names and values alone. -/

namespace PropertyFile

namespace Kept

variable {m : Kept} {d : Descriptor}

lemma index_append (m m' : Kept) : index (m ++ m') = index m ++ index m' := List.map_append

lemma put_middle (h : d.name ∉ m.index.names) (v w : Text) (m' : Kept) :
    put (m ++ (d, v) :: m') d w = m ++ (d, w) :: m' := by
  induction m with
  | nil => simp [put, Descriptor.same]
  | cons e m ih =>
    obtain ⟨e, u⟩ := e
    have hm : d.name ≠ e.name ∧ d.name ∉ (index m).names := by
      simpa [index, Index.names] using h
    have hne : e.same d = false := by simpa [Descriptor.same] using Ne.symm hm.1
    rw [List.cons_append, put, hne, if_neg Bool.false_ne_true, ih hm.2]
    rfl

end Kept

namespace Ledger

def toStore (l : Ledger) : Store := ⟨l.registry, l.kept.index, l.nodup⟩

namespace Change

def toChange (c : Change) : PropertyFile.Change := ⟨c.ledger.toStore, c.failure, c.notes⟩

lemma toChange_andThen (c : Change) {step : Ledger → Change} {step' : Store → PropertyFile.Change}
    (h : ∀ l, (step l).toChange = step' l.toStore) :
    (c.andThen step).toChange = c.toChange.andThen step' := by
  have hstep := h c.ledger
  obtain ⟨l, failure, notes⟩ := c
  cases failure with
  | some e => rfl
  | none =>
    simp only [andThen, PropertyFile.Change.andThen, toChange, ← hstep]

end Change

variable {α : Type}

lemma toChange_put (l : Ledger) (d : Descriptor) (v : Text) :
    (l.put d v).toChange = l.toStore.put d.name v := by
  simp only [put, Change.toChange, toStore, Store.put, Kept.index_put]

lemma toChange_setUnder (r : Registry) (l : Ledger) (key : KeyRef) (v : Text) :
    (setUnder r l key v).toChange = Store.setUnder r l.toStore key v := by
  unfold setUnder Store.setUnder
  cases r.require key with
  | error e => rfl
  | ok d => exact toChange_put l d v

lemma toChange_flush (r : Registry) (l : Ledger) (pending : Option Entry) :
    (flush r l pending).toChange = Store.flush r l.toStore pending := by
  cases pending with
  | none => rfl
  | some e => exact toChange_setUnder r l _ _

theorem toChange_readFrom (r : Registry) (broken : Option Error) (number : ℕ)
    (pending : Option Entry) (l : Ledger) (ts : List Text) :
    (readFrom r broken number pending l ts).toChange =
      Store.readFrom r broken number pending l.toStore ts := by
  induction ts generalizing number pending l with
  | nil =>
    cases broken with
    | none => exact toChange_flush r l pending
    | some e => rfl
  | cons t ts ih =>
    rw [readFrom, Store.readFrom]
    cases Line.ofText t with
    | ignored => exact congrArg (PropertyFile.Change.noting _) (ih (number + 1) pending l)
    | continuation t =>
      cases pending with
      | none => exact congrArg (PropertyFile.Change.noting _) (ih (number + 1) none l)
      | some e => exact ih (number + 1) (some (e.extend t)) l
    | malformed t => rfl
    | entry e =>
      rw [← toChange_flush]
      exact Change.toChange_andThen _ fun l => ih (number + 1) (some e) l

def Pass.toPass (p : Pass) : Store.Pass := ⟨p.kept.index, p.cycle, p.notes⟩

theorem toPass_resolveEach (r : Registry) (m m' : Kept)
    (h : (Kept.index (m ++ m')).names.Nodup) :
    (resolveEach r (m'.map Prod.fst) (m ++ m')).toPass =
      Store.resolveFrom r m.index m'.index := by
  induction m' generalizing m with
  | nil => simp [resolveEach, Pass.toPass, Kept.index, Store.resolveFrom]
  | cons e m' ih =>
    obtain ⟨d, v⟩ := e
    have hindex (w : Text) : Kept.index (m ++ (d, w) :: m') =
        m.index ++ (d.name, w) :: Kept.index m' := Kept.index_append m _
    have hd : d.name ∉ m.index.names := by
      rw [hindex] at h
      exact Index.not_mem_front h
    have hfind : Kept.find? (m ++ (d, v) :: m') d = some v := by
      rw [← Kept.find?_index, hindex]
      exact Store.find?_middle hd v _
    have hput (t : Text) : Kept.put (m ++ (d, v) :: m') d t = (m ++ [(d, t)]) ++ m' := by
      rw [Kept.put_middle hd, List.append_assoc]
      rfl
    have hresolved (t : Text) : Kept.index (m ++ [(d, t)]) = m.index ++ [(d.name, t)] :=
      Kept.index_append m _
    have hcons : Kept.index ((d, v) :: m') = (d.name, v) :: Kept.index m' := rfl
    simp only [List.map_cons, resolveEach, hfind, Option.getD_some, hcons, Store.resolveFrom,
      hindex]
    cases (resolve (Store.visible r (m.index ++ (d.name, v) :: Kept.index m')) (some d.name)
      v).outcome with
    | error chain => simp only [Pass.toPass, hindex]
    | ok t =>
      have hnodup : (Kept.index ((m ++ [(d, t)]) ++ m')).names.Nodup := by
        rw [← hput, Kept.index_put]
        exact Index.nodup_names_put h d.name t
      have hrest := ih (m ++ [(d, t)]) hnodup
      rw [hresolved, ← hput] at hrest
      simp only [← hrest, Pass.toPass]

theorem toChange_resolveAll (l : Ledger) : l.resolveAll.toChange = l.toStore.resolveAll := by
  have hpass : (resolveEach l.registry (l.kept.map Prod.fst) l.kept).toPass =
      Store.resolveFrom l.registry [] l.kept.index :=
    toPass_resolveEach l.registry [] l.kept l.nodup
  simp only [resolveAll, Change.toChange, toStore, Store.resolveAll, ← hpass]
  rfl

lemma validate_toStore (l : Ledger) (r : Registry) : l.validate r = l.toStore.validate r := by
  have hmissing : (fun d => (l.kept.find? d).isNone) =
      fun d : Descriptor => !l.toStore.values.contains d.name := by
    funext d
    rw [Index.contains, toStore, Kept.find?_index]
    cases l.kept.find? d <;> rfl
  rw [validate, hmissing]
  rfl

lemma get_toStore (l : Ledger) (key : KeyRef) : l.get key = l.toStore.get key := by
  have hfind : l.kept.find? = fun d : Descriptor => l.toStore.values.find? d.name :=
    funext fun d => (Kept.find?_index l.kept d).symm
  rw [get, hfind]
  rfl

lemma getAs_toStore (l : Ledger) (key : KeyRef) (expected : Text)
    (read : Text → Except Conversion.Fault α) :
    l.getAs key expected read = l.toStore.getAs key expected read := by
  unfold getAs Store.getAs
  rw [get_toStore]
  rfl

lemma getList_toStore (l : Ledger) (key : KeyRef) (type : ElementType α) (delimiter : Text) :
    l.getList key type delimiter = l.toStore.getList key type delimiter := by
  unfold getList Store.getList
  rw [get_toStore]
  rfl

lemma storedValue?_toStore (l : Ledger) (name : Text) :
    l.storedValue? name = l.toStore.storedValue? name := by
  have hdeclares := l.registry.find?_isSome name
  unfold storedValue? Store.storedValue?
  cases hf : l.registry.find? name with
  | none =>
    rw [hf] at hdeclares
    exact (if_neg (by simp [toStore, ← hdeclares])).symm
  | some d =>
    obtain rfl := Registry.name_of_find? hf
    rw [hf] at hdeclares
    rw [Option.bind_some, ← Kept.find?_index]
    exact (if_pos hdeclares.symm).symm

lemma contains_toStore (l : Ledger) (key : KeyRef) : l.contains key = l.toStore.contains key := by
  unfold contains
  simp only [storedValue?_toStore]
  rfl

lemma toIndex_toStore (l : Ledger) : l.toIndex = l.toStore.toIndex := by
  simp only [toIndex, Store.toIndex, toStore, Kept.index, List.foldl_map]

end Ledger

end PropertyFile
