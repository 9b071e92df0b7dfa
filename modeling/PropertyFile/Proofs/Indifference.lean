import PropertyFile.Proofs.Stages

/-! Registries with the same names and the same mandatory ones load the same values from a file. -/

namespace PropertyFile

structure Registry.Agrees (r r' : Registry) : Prop where
  names : ∀ n, n ∈ r.names ↔ n ∈ r'.names
  mandatory : ∀ n, n ∈ r.mandatory.map Descriptor.name ↔ n ∈ r'.mandatory.map Descriptor.name

namespace Store

def under (r : Registry) (s : Store) : Store := { s with registry := r }

end Store

namespace Change

def under (r : Registry) (c : Change) : Change := { c with store := c.store.under r }

lemma under_andThen (r : Registry) (c : Change) {step step' : Store → Change}
    (h : ∀ s, (step s).under r = step' (s.under r)) :
    (c.andThen step).under r = (c.under r).andThen step' := by
  have hstep := h c.store
  obtain ⟨s, failure, notes⟩ := c
  cases failure with
  | some e => rfl
  | none => simp only [andThen, under, ← hstep]

end Change

namespace Registry.Agrees

variable {r r' : Registry} (h : r.Agrees r')

include h

lemma declares_eq (n : Text) : r.declares n = r'.declares n := by
  rw [Bool.eq_iff_iff, declares, declares, List.contains_iff_mem, List.contains_iff_mem]
  exact h.names n

lemma flush_under (s : Store) (pending : Option Entry) :
    (Store.flush r s pending).under r' = Store.flush r' (s.under r') pending := by
  cases pending with
  | none => rfl
  | some e =>
    have hd := h.declares_eq e.name
    cases hr : r.declares e.name with
    | true =>
      rw [Store.flush_declared hr, Store.flush_declared (hd.symm.trans hr)]
      rfl
    | false =>
      rw [Store.flush_unknown hr, Store.flush_unknown (hd.symm.trans hr)]
      rfl

theorem readFrom_under (broken : Option Error) (number : ℕ) (pending : Option Entry) (s : Store)
    (ls : List Text) : (Store.readFrom r broken number pending s ls).under r' =
      Store.readFrom r' broken number pending (s.under r') ls := by
  induction ls generalizing number pending s with
  | nil =>
    cases broken with
    | none => exact h.flush_under s pending
    | some e => rfl
  | cons l ls ih =>
    rw [Store.readFrom, Store.readFrom]
    cases Line.ofText l with
    | ignored => exact congrArg (Change.noting _) (ih (number + 1) pending s)
    | continuation t =>
      cases pending with
      | none => exact congrArg (Change.noting _) (ih (number + 1) none s)
      | some e => exact ih (number + 1) (some (e.extend t)) s
    | malformed t => rfl
    | entry e =>
      rw [← h.flush_under]
      exact Change.under_andThen r' _ fun s => ih (number + 1) (some e) s

lemma read_under (path : Text) (file : FileState) :
    (Load.read r path file).under r' = Load.read r' path file := by
  unfold Load.read
  split
  · rfl
  · cases file with
    | missing => rfl
    | unreadable reason => rfl
    | content bytes =>
      simp only [Load.readFile]
      cases Utf8.decode bytes with
      | ok t => exact h.readFrom_under none 1 none _ _
      | error f => exact h.readFrom_under (some _) 1 none _ _

lemma visible_eq (m : Index Text) : Store.visible r m = Store.visible r' m := by
  simp only [Store.visible, h.declares_eq]

theorem resolveFrom_eq (resolved raw : Index Text) :
    Store.resolveFrom r resolved raw = Store.resolveFrom r' resolved raw := by
  induction raw generalizing resolved with
  | nil => rfl
  | cons e raw ih => simp only [Store.resolveFrom, h.visible_eq, ih]

lemma resolveAll_under {s : Store} (hs : s.registry = r) :
    s.resolveAll.under r' = (s.under r').resolveAll := by
  subst hs
  simp only [Store.resolveAll, Change.under, Store.under, h.resolveFrom_eq]

lemma missing_eq (ns : List Text) :
    (r.mandatory.find? fun d => decide (d.name ∉ ns)).isSome =
      (r'.mandatory.find? fun d => decide (d.name ∉ ns)).isSome := by
  have hsome (q : Registry) : (q.mandatory.find? fun d => decide (d.name ∉ ns)).isSome = true ↔
      ∃ n ∈ q.mandatory.map Descriptor.name, n ∉ ns := by
    simp [List.find?_isSome]
  rw [Bool.eq_iff_iff, hsome, hsome]
  simp only [h.mandatory]

end Registry.Agrees

namespace Load

variable {r r' : Registry} {path : Text} {file : FileState} {e : Error}

inductive Matches (r r' : Registry) (stored : List Text) :
    Except Error Store → Except Error Store → Prop
  | loaded {s s' : Store} : s.values = s'.values → Matches r r' stored (.ok s) (.ok s')
  | failed (e : Error) : Matches r r' stored (.error e) (.error e)
  | missing {d d' : Descriptor} : d.name ≠ d'.name →
    (r.mandatory.find? fun d => decide (d.name ∉ stored)) = some d →
    (r'.mandatory.find? fun d => decide (d.name ∉ stored)) = some d' →
    Matches r r' stored (.error (.config (.missingMandatoryKey d.name)))
      (.error (.config (.missingMandatoryKey d'.name)))

def rest (r : Registry) (s : Store) : Logged Store :=
  (staged .validate [] [] (s.validate r)).bind fun _ =>
  staged .substitute [("keys", Text.ofNat s.size)] s.resolveAll.notes s.resolveAll.outcome

lemma run_registry (r : Registry) (path : Text) (file : FileState) :
    run (.registry r) path file = (staged .schema [] [] (.ok r)).bind fun r =>
      (staged .read [("path", Path.normal path)] (read r path file).notes
        (read r path file).outcome).bind (rest r) := rfl

lemma registry_read (hf : (read r path file).failure = none) :
    (read r path file).store.registry = r := by
  obtain ⟨es, -, hs, -⟩ := read_ok hf
  rw [hs, Store.registry_foldl_record]
  rfl

theorem rest_matches (h : r.Agrees r') (s : Store) (hs : s.registry = r) :
    Matches r r' s.values.names (rest r s).outcome (rest r' (s.under r')).outcome ∧
      (rest r s).log = (rest r' (s.under r')).log := by
  have hmissing := h.missing_eq s.values.names
  cases hd : r.mandatory.find? fun d => decide (d.name ∉ s.values.names) with
  | some d =>
    rw [hd] at hmissing
    obtain ⟨d', hd'⟩ := Option.isSome_iff_exists.mp hmissing.symm
    have hv := Store.validate_of_missing hd
    have hv' : (s.under r').validate r' = .error (.config (.missingMandatoryKey d'.name)) :=
      Store.validate_of_missing hd'
    rw [rest, rest, bind_of_error hv, bind_of_error hv', hv, hv']
    refine ⟨?_, rfl⟩
    by_cases hname : d.name = d'.name
    · rw [hname]
      exact .failed _
    · exact .missing hname hd hd'
  | none =>
    rw [hd] at hmissing
    have hd' := Option.not_isSome_iff_eq_none.mp (Bool.eq_false_iff.mp hmissing.symm)
    have hv := Store.validate_of_complete hd
    have hv' : (s.under r').validate r' = .ok () := Store.validate_of_complete hd'
    have hpass := h.resolveAll_under hs
    rw [rest, rest, bind_of_ok hv, bind_of_ok hv', hv, hv', ← hpass]
    cases hf : s.resolveAll.failure with
    | some e =>
      have hf' : (s.resolveAll.under r').failure = some e := hf
      rw [outcome_of_some hf, outcome_of_some hf']
      exact ⟨.failed e, rfl⟩
    | none =>
      have hf' : (s.resolveAll.under r').failure = none := hf
      rw [outcome_of_none hf, outcome_of_none hf']
      exact ⟨.loaded rfl, rfl⟩

theorem run_matches (r r' : Registry) (h : r.Agrees r') (path : Text) (file : FileState) :
    Matches r r' (read r path file).store.values.names (run (.registry r) path file).outcome
        (run (.registry r') path file).outcome ∧
      (run (.registry r) path file).log = (run (.registry r') path file).log := by
  have hread := h.read_under path file
  have hschema (q : Registry) : (staged .schema [] [] (.ok q)).outcome = .ok q := rfl
  rw [run_registry, run_registry, bind_of_ok (hschema r), bind_of_ok (hschema r'), ← hread]
  cases hf : (read r path file).failure with
  | some e =>
    have hf' : ((read r path file).under r').failure = some e := hf
    rw [outcome_of_some hf, outcome_of_some hf']
    exact ⟨.failed e, rfl⟩
  | none =>
    have hf' : ((read r path file).under r').failure = none := hf
    obtain ⟨hmatches, hlog⟩ := rest_matches h _ (registry_read hf)
    rw [outcome_of_none hf, outcome_of_none hf', bind_of_ok rfl, bind_of_ok rfl]
    exact ⟨hmatches, congrArg (fun log => _ ++ (_ ++ log)) hlog⟩

theorem run_matches_missing :
    let ab (t : Text) : Descriptor := ⟨Text.ofChars ['A', 'B'], true, t, rfl⟩
    let cd (t : Text) : Descriptor := ⟨Text.ofChars ['C', 'D'], true, t, rfl⟩
    let ef (t : Text) : Descriptor := ⟨Text.ofChars ['E', 'F'], false, t, rfl⟩
    let r : Registry := ⟨[ab [], cd [], ef []], by simp, by decide⟩
    let r' : Registry :=
      ⟨[ef (Text.ofChars ['x']), cd (Text.ofChars ['y']), ab []], by simp, by decide⟩
    let path := Text.ofChars ['a']
    let file : FileState := .content [69, 70, 61, 49]
    r.Agrees r' ∧
    Matches r r' [Text.ofChars ['E', 'F']] (run (.registry r) path file).outcome
      (run (.registry r') path file).outcome ∧
    (run (.registry r) path file).outcome =
      .error (ConfigError.missingMandatoryKey (Text.ofChars ['A', 'B'])) ∧
    (run (.registry r') path file).outcome =
      .error (ConfigError.missingMandatoryKey (Text.ofChars ['C', 'D'])) := by
  intro ab cd ef r r' path file
  have hnames : r.names.Perm r'.names := by decide
  have hmandatory : (r.mandatory.map Descriptor.name).Perm (r'.mandatory.map Descriptor.name) := by
    decide
  have h : r.Agrees r' := ⟨fun n => hnames.mem_iff, fun n => hmandatory.mem_iff⟩
  have hstored : (read r path file).store.values.names = [Text.ofChars ['E', 'F']] := by decide
  obtain ⟨hmatches, -⟩ := run_matches r r' h path file
  rw [hstored] at hmatches
  exact ⟨h, hmatches, rfl, rfl⟩

end Load

end PropertyFile
