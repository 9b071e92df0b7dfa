import PropertyFile.Proofs.Rows
import PropertyFile.Proofs.Traversal

/-! Whatever is done to a store, its names stay and new ones come behind them. -/

namespace PropertyFile

inductive Operation
  | put (d : Descriptor) (value : Text)
  | set (key : KeyRef) (value : Text)
  | read (ls : List Text) (broken : Option Error)
  | resolve
  deriving DecidableEq, Repr

namespace Operation

def change : Operation → Store → Change
  | .put d value, s => s.put d.name value
  | .set key value, s => s.set key value
  | .read ls broken, s => Store.readFrom s.registry broken 1 none s ls
  | .resolve, s => s.resolveAll

def after (r : Registry) (ops : List Operation) : Store :=
  ops.foldl (fun s op => (op.change s).store) (Store.empty r)

end Operation

namespace Registry

variable {r : Registry} {key : KeyRef} {d : Descriptor}

lemma declares_of_require (h : r.require key = .ok d) : r.declares d.name = true := by
  obtain ⟨n, -, hd⟩ := Traversal.bind_eq_ok_iff.mp h
  split at hd
  · rename_i hf
    obtain rfl := Except.ok.inj hd
    rw [← find?_isSome, name_of_find? hf, hf]
    rfl
  · cases hd

end Registry

namespace Store

structure Grows (r : Registry) (s s' : Store) : Prop where
  registry : s'.registry = s.registry
  names : s.values.names <+: s'.values.names
  declared : ∀ n ∈ s'.values.names, n ∈ s.values.names ∨ r.declares n = true

variable {r : Registry} {s s' t : Store} {n v : Text}

lemma Grows.refl (r : Registry) (s : Store) : Grows r s s :=
  ⟨rfl, List.prefix_rfl, fun _ => .inl⟩

lemma Grows.trans (h : Grows r s s') (h' : Grows r s' t) : Grows r s t where
  registry := h'.registry.trans h.registry
  names := h.names.trans h'.names
  declared n hn := (h'.declared n hn).elim (h.declared n) .inr

lemma prefix_put (s : Store) (n v : Text) : s.values.names <+: (s.put n v).store.values.names := by
  change s.values.names <+: (s.values.put n v).names
  rw [Index.names_put]
  split
  · exact List.prefix_rfl
  · exact List.prefix_append _ _

lemma mem_names_put {m : Text} (h : m ∈ (s.put n v).store.values.names) :
    m ∈ s.values.names ∨ m = n := by
  change m ∈ (s.values.put n v).names at h
  rw [Index.names_put] at h
  split at h
  · exact .inl h
  · simpa using h

lemma Grows.put (h : r.declares n = true) (s : Store) (v : Text) :
    Grows r s (s.put n v).store where
  registry := rfl
  names := prefix_put s n v
  declared m hm := (mem_names_put hm).imp_right fun he => by rw [he, h]

lemma grows_setUnder (r : Registry) (s : Store) (key : KeyRef) (v : Text) :
    Grows r s (setUnder r s key v).store := by
  unfold setUnder
  split
  · exact .put (Registry.declares_of_require ‹_›) s v
  · exact .refl r s

lemma grows_flush (r : Registry) (s : Store) (pending : Option Entry) :
    Grows r s (flush r s pending).store := by
  cases pending with
  | none => exact .refl r s
  | some e => exact grows_setUnder r s _ _

theorem grows_readFrom (broken : Option Error) (number : ℕ) (pending : Option Entry) (s : Store)
    (ls : List Text) : Grows r s (readFrom r broken number pending s ls).store := by
  induction ls generalizing number pending s with
  | nil =>
    cases broken with
    | none => exact grows_flush r s pending
    | some e => exact .refl r s
  | cons l ls ih =>
    rw [readFrom]
    cases Line.ofText l with
    | ignored => exact ih (number + 1) pending s
    | continuation t =>
      cases pending with
      | none => exact ih (number + 1) none s
      | some e => exact ih (number + 1) _ s
    | malformed t => exact .refl r s
    | entry e =>
      have hflush := grows_flush r s pending
      simp only [Change.andThen]
      split
      · exact hflush
      · exact hflush.trans (ih (number + 1) (some e) _)

lemma grows_resolveAll (r : Registry) (s : Store) : Grows r s s.resolveAll.store where
  registry := rfl
  names := by rw [names_resolveAll]
  declared n hn := .inl (names_resolveAll s ▸ hn)

lemma toIndex_eq (s : Store) : s.toIndex = s.values := by
  have h := foldl_put_entries (m := []) s.nodup
  rwa [entries, List.foldl_map] at h

lemma storedValue?_isSome (s : Store) (n : Text) : (s.storedValue? n).isSome = true ↔
    s.registry.declares n = true ∧ n ∈ s.values.names := by
  rw [Index.mem_names, storedValue?]
  split <;> simp_all

lemma contains_iff (s : Store) (key : KeyRef) : s.contains key = .ok true ↔
    ∃ n, key.name? = .ok n ∧ s.registry.declares n = true ∧ n ∈ s.values.names := by
  have hname : s.contains key = .ok true ↔
      ∃ n, key.name? = .ok n ∧ (s.storedValue? n).isSome = true := by
    have hmap (x : Except Error Text) : (x.map fun n => (s.storedValue? n).isSome) = .ok true ↔
        ∃ n, x = .ok n ∧ (s.storedValue? n).isSome = true := by cases x <;> simp [Except.map]
    cases key with
    -- what denotes no key is not contained, instead of failing
    | other shown => simp [contains, KeyRef.name?, KeyRef.descriptor?, Except.map]
    | name t => exact hmap (KeyRef.name t).name?
    | descriptor d => exact hmap (KeyRef.descriptor d).name?
    | member m => exact hmap (KeyRef.member m).name?
  simp only [hname, storedValue?_isSome]

end Store

namespace Operation

open Store (Grows)

variable {r : Registry} {op : Operation} {s : Store} {n : Text}

lemma grows_or_put (op : Operation) (s : Store) (h : s.registry = r) :
    Grows r s (op.change s).store ∨ ∃ d v, op = .put d v := by
  subst h
  cases op with
  | put d v => exact .inr ⟨d, v, rfl⟩
  | set key v => exact .inl (Store.grows_setUnder _ s key v)
  | read ls broken => exact .inl (Store.grows_readFrom broken 1 none s ls)
  | resolve => exact .inl (Store.grows_resolveAll _ s)

lemma registry_change (op : Operation) (s : Store) : (op.change s).store.registry = s.registry := by
  rcases grows_or_put op s rfl with h | ⟨d, v, rfl⟩
  · exact h.registry
  · rfl

lemma prefix_change (op : Operation) (s : Store) :
    s.values.names <+: (op.change s).store.values.names := by
  rcases grows_or_put op s rfl with h | ⟨d, v, rfl⟩
  · exact h.names
  · exact Store.prefix_put s d.name v

lemma after_append (r : Registry) (ops : List Operation) (op : Operation) :
    after r (ops ++ [op]) = (op.change (after r ops)).store := by
  simp [after]

lemma registry_after (r : Registry) (ops : List Operation) : (after r ops).registry = r := by
  induction ops using List.reverseRecOn with
  | nil => rfl
  | append_singleton ops op ih => rw [after_append, registry_change, ih]

lemma prefix_after (r : Registry) (ops more : List Operation) :
    (after r ops).values.names <+: (after r (ops ++ more)).values.names := by
  induction more using List.reverseRecOn with
  | nil => rw [List.append_nil]
  | append_singleton more op ih =>
    rw [← List.append_assoc, after_append]
    exact ih.trans (prefix_change op _)

lemma exists_put (r : Registry) (ops : List Operation) (hn : n ∈ (after r ops).values.names)
    (h : r.declares n = false) : ∃ before d v later, ops = before ++ .put d v :: later ∧
      d.name = n ∧ n ∉ (after r before).values.names := by
  induction ops using List.reverseRecOn with
  | nil => cases hn
  | append_singleton ops op ih =>
    by_cases hm : n ∈ (after r ops).values.names
    · obtain ⟨before, d, v, later, rfl, hd⟩ := ih hm
      exact ⟨before, d, v, later ++ [op], by simp, hd⟩
    -- a name that the last operation has added is declared, or the operation put it there
    · rw [after_append] at hn
      rcases grows_or_put op (after r ops) (registry_after r ops) with hg | ⟨d, v, rfl⟩
      · have := (hg.declared n hn).resolve_left hm
        simp [h] at this
      · exact ⟨ops, d, v, [], rfl, ((Store.mem_names_put hn).resolve_left hm).symm, hm⟩

theorem after_names (r : Registry) (ops : List Operation) :
    let s := after r ops
    s.values.names.Nodup ∧
    (∀ more, s.values.names <+: (after r (ops ++ more)).values.names) ∧
    s.size = s.toIndex.length ∧
    (∀ n ∈ s.values.names, r.declares n = false → ∃ before d v later,
      ops = before ++ .put d v :: later ∧ d.name = n ∧ n ∉ (after r before).values.names) ∧
    ∀ key, s.contains key = .ok true ↔
      ∃ n, key.name? = .ok n ∧ r.declares n = true ∧ n ∈ s.values.names := by
  intro s
  refine ⟨s.nodup, prefix_after r ops, ?_, fun n => exists_put r ops, fun key => ?_⟩
  · rw [Store.toIndex_eq]
    rfl
  · rw [Store.contains_iff, registry_after]

end Operation

end PropertyFile
