import PropertyFile.Load
import PropertyFile.Proofs.Paths
import PropertyFile.Proofs.Refusal
import PropertyFile.Proofs.Traversal

/-! How a load ends: the first stage that fails can be told from the error. -/

namespace PropertyFile

open Traversal

def Error.Belongs (stage : Stage) (e : Error) : Prop := ∀ c, e = .config c → c.stage = stage

def Error.FaultOf (stage : Stage) (e : Error) : Prop := ∃ c, e = .config c ∧ c.stage = stage

lemma Error.FaultOf.belongs {stage : Stage} {e : Error} (h : e.FaultOf stage) :
    e.Belongs stage := by
  obtain ⟨c, rfl, hc⟩ := h
  intro c' he
  rwa [← Error.config.inj he]

section Schema

variable {e : Error} {source : SchemaSource}

lemma Descriptor.plain_error {name : Text} (h : plain name = .error e) : e = .blankName := by
  unfold plain make at h
  split at h
  · cases h
  · exact (Except.error.inj h).symm

lemma Member.descriptor_error {m : Member} (h : m.descriptor = .error e) : e = .blankName := by
  unfold Member.descriptor at h
  split at h
  · cases h
  · exact Descriptor.plain_error h

lemma KeyRef.descriptor?_error {k : KeyRef} (h : k.descriptor? = .error e) (c : ConfigError) :
    e ≠ .config c := by
  cases k with
  | name t => simp [Descriptor.plain_error h]
  | descriptor d => cases h
  | member m => simp [Member.descriptor_error h]
  | other shown => simp [← Except.error.inj h]

lemma Registry.ofDescriptors_error {ds : List Descriptor} (h : ofDescriptors ds = .error e) :
    e = .config .emptySchema := by
  unfold ofDescriptors at h
  split at h
  · exact (Except.error.inj h).symm
  · cases h

lemma Registry.ofEntries_error {l : List KeyRef} (h : ofEntries l = .error e) :
    e.Belongs .schema := by
  rintro c rfl
  rcases bind_eq_error_iff.mp h with h | ⟨ds, _, h⟩
  · obtain ⟨_, k, _, _, _, hk⟩ := mapM_eq_error_iff.mp h
    exact absurd rfl (KeyRef.descriptor?_error hk c)
  · obtain rfl := Error.config.inj (ofDescriptors_error h)
    rfl

lemma Registry.ofSource_error (h : ofSource source = .error e) : e.Belongs .schema := by
  cases source with
  | entries l => exact ofEntries_error h
  | enumeration l => exact ofEntries_error h
  | registry r => cases h
  | text =>
    obtain rfl := Except.error.inj h
    simp [Error.Belongs]
  | scalar sort =>
    obtain rfl := Except.error.inj h
    simp [Error.Belongs]

end Schema

namespace Store

open Entry (ofLines)

variable {r : Registry} {s : Store} {pending : Option Entry} {broken : Option Error} {e : Error}

lemma flush_failure (h : (flush r s pending).failure = some e) : e.FaultOf .read := by
  cases pending with
  | none => cases h
  | some p =>
    cases hd : r.declares p.name with
    | true =>
      rw [flush_declared hd] at h
      cases h
    | false =>
      rw [flush_unknown hd] at h
      exact ⟨_, (Option.some.inj h).symm, rfl⟩

lemma failure_andThen {c : Change} {step : Store → Change}
    (h : (c.andThen step).failure = some e) :
    c.failure = some e ∨ (step c.store).failure = some e := by
  unfold Change.andThen at h
  split at h
  · exact .inl h
  · exact .inr h

theorem readFrom_failure (number : ℕ) {ls : List Text} (hb : ∀ e ∈ broken, e.FaultOf .read)
    (h : (readFrom r broken number pending s ls).failure = some e) : e.FaultOf .read := by
  induction ls generalizing number pending s with
  | nil =>
    cases broken with
    | none =>
      rw [readFrom] at h
      exact flush_failure h
    | some b =>
      obtain rfl := Option.some.inj h
      exact hb b rfl
  | cons l ls ih =>
    rw [readFrom] at h
    cases hl : Line.ofText l with
    | ignored =>
      rw [hl] at h
      exact ih _ h
    | continuation t =>
      rw [hl] at h
      cases pending with
      | none => exact ih _ h
      | some p => exact ih _ h
    | malformed t =>
      rw [hl] at h
      exact ⟨_, (Option.some.inj h).symm, rfl⟩
    | entry p =>
      rw [hl] at h
      rcases failure_andThen h with h | h
      · exact flush_failure h
      · exact ih _ h

lemma readFrom_broken (number : ℕ) (b : Error) (ls : List Text) :
    (readFrom r (some b) number pending s ls).failure ≠ none := by
  induction ls generalizing number pending s with
  | nil => simp [readFrom, failed]
  | cons l ls ih =>
    rw [readFrom]
    cases hl : Line.ofText l with
    | ignored => exact ih _
    | continuation t =>
      cases pending with
      | none => exact ih _
      | some p => exact ih _
    | malformed t => simp [failed]
    | entry p => exact fun h => ih _ (store_andThen h).2.1

lemma declares_of_readLines {ls : List Text} (h : (readLinesUnder r s ls).failure = none) :
    ∀ p ∈ ofLines ls, r.declares p.name = true := by
  have hv : Verdict r (Line.openings ls) (ofLines ls) s (readLinesUnder r s ls) :=
    readFrom_verdict 1 none none s ls ⟨rfl, by simp⟩
  obtain ⟨hbad, hunknown⟩ := hv.of_accepted h
  intro p hp
  have hname : p.name ∈ (ofLines ls).map Entry.name := List.mem_map_of_mem hp
  rw [Entry.names_ofLines 1, List.mem_map] at hname
  obtain ⟨q, hq, hkey⟩ := hname
  have hb := List.findIdx?_eq_none_iff.mp hbad q hq
  have hu := List.findIdx?_eq_none_iff.mp hunknown q hq
  simpa [Line.unknown, hb, hkey] using hu

lemma names_foldl_record (r : Registry) (es : List Entry) :
    (es.foldl record (empty r)).values.names = (es.map Entry.name).eraseDups := by
  rw [values_foldl_record, Index.names_foldl_put (empty r).nodup]
  rfl

lemma mandatory_predicate (s : Store) :
    (fun d : Descriptor => !s.values.contains d.name) =
      fun d => decide (d.name ∉ s.values.names) := by
  funext d
  cases h : s.values.find? d.name <;> simp [Index.contains, Index.mem_names, h]

lemma validate_of_missing {d : Descriptor}
    (h : (r.mandatory.find? fun d => decide (d.name ∉ s.values.names)) = some d) :
    s.validate r = .error (.config (.missingMandatoryKey d.name)) := by
  rw [validate, mandatory_predicate, h]

lemma validate_of_complete
    (h : (r.mandatory.find? fun d => decide (d.name ∉ s.values.names)) = none) :
    s.validate r = .ok () := by
  rw [validate, mandatory_predicate, h]

lemma validate_ok (h : s.validate r = .ok ()) : ∀ d ∈ r.mandatory, d.name ∈ s.values.names := by
  unfold validate at h
  rw [mandatory_predicate] at h
  split at h
  · cases h
  · rename_i hnone
    simpa using hnone

lemma validate_error (h : s.validate r = .error e) :
    ∃ d, (r.mandatory.find? fun d => decide (d.name ∉ s.values.names)) = some d ∧
      e = .config (.missingMandatoryKey d.name) := by
  unfold validate at h
  rw [mandatory_predicate] at h
  split at h
  · exact ⟨_, ‹_›, (Except.error.inj h).symm⟩
  · cases h

end Store

def FileState.entries? : FileState → Option (List Entry)
  | .content bytes =>
    (Utf8.decode bytes).toOption.map fun t => Entry.ofLines (Text.lines Text.isFileBreak t)
  | _ => none

namespace Load

open Store (record)

variable {r : Registry} {path : Text} {file : FileState} {e : Error} {source : SchemaSource}

lemma read_failure (h : (read r path file).failure = some e) :
    e.FaultOf .read ∨ Path.fault? (Path.normal path) = some e := by
  unfold read at h
  split at h
  · obtain rfl := Option.some.inj h
    exact .inr ‹_›
  · cases file with
    | missing => exact .inl ⟨_, (Option.some.inj h).symm, rfl⟩
    | unreadable reason => exact .inl ⟨_, (Option.some.inj h).symm, rfl⟩
    | content bytes =>
      simp only [readFile] at h
      split at h
      · exact .inl (Store.readFrom_failure 1 (by simp) h)
      · exact .inl (Store.readFrom_failure 1 (by simp [Error.FaultOf, ConfigError.stage]) h)

lemma read_ok (h : (read r path file).failure = none) :
    ∃ es, file.entries? = some es ∧ (read r path file).store = es.foldl record (Store.empty r) ∧
      ∀ p ∈ es, r.declares p.name = true := by
  unfold read at h ⊢
  cases hpath : Path.fault? (Path.normal path) with
  | some e =>
    rw [hpath] at h
    cases h
  | none =>
    rw [hpath] at h
    cases file with
    | missing => cases h
    | unreadable reason => cases h
    | content bytes =>
      simp only [readFile] at h ⊢
      cases hd : Utf8.decode bytes with
      | error f =>
        rw [hd] at h
        exact absurd h (Store.readFrom_broken 1 _ _)
      | ok t =>
        rw [hd] at h
        have hs := Store.store_readFrom 1 _ h
        refine ⟨_, ?_, hs, Store.declares_of_readLines h⟩
        simp [FileState.entries?, hd, Except.toOption, Entry.closed]

inductive Ends (source : SchemaSource) (path : Text) (file : FileState) :
    Option Stage → Except Error Store → Prop
  | schema {e : Error} : Registry.ofSource source = .error e →
    Ends source path file (some .schema) (.error e)
  | read {r : Registry} {e : Error} : Registry.ofSource source = .ok r →
    (read r path file).failure = some e → Ends source path file (some .read) (.error e)
  | validate {r : Registry} {e : Error} : Registry.ofSource source = .ok r →
    (read r path file).failure = none → (read r path file).store.validate r = .error e →
    Ends source path file (some .validate) (.error e)
  | substitute {r : Registry} {e : Error} : Registry.ofSource source = .ok r →
    (read r path file).failure = none → (read r path file).store.validate r = .ok () →
    (read r path file).store.resolveAll.failure = some e →
    Ends source path file (some .substitute) (.error e)
  | loaded {r : Registry} : Registry.ofSource source = .ok r →
    (read r path file).failure = none → (read r path file).store.validate r = .ok () →
    (read r path file).store.resolveAll.failure = none →
    Ends source path file none (.ok (read r path file).store.resolveAll.store)

structure Loaded (r : Registry) (es : List Entry) (s : Store) : Prop where
  registry : s.registry = r
  distinct : s.values.names.Nodup
  names : s.values.names = (es.map Entry.name).eraseDups
  declared : ∀ n ∈ s.values.names, r.declares n = true
  mandatory : ∀ d ∈ r.mandatory, d.name ∈ s.values.names
  resolved : (es.foldl record (Store.empty r)).resolveAll.failure = none ∧
    (es.foldl record (Store.empty r)).resolveAll.store = s

lemma outcome_bind {α β : Type} (x : Logged α) (f : α → Logged β) :
    (x.bind f).outcome = x.outcome.bind fun a => (f a).outcome := by
  cases h : x.outcome <;> simp [Logged.bind, h, Except.bind]

lemma bind_of_ok {α β : Type} {x : Logged α} {a : α} (h : x.outcome = .ok a) (f : α → Logged β) :
    x.bind f = ⟨x.log ++ (f a).log, (f a).outcome⟩ := by
  simp [Logged.bind, h]

lemma bind_of_error {α β : Type} {x : Logged α} (h : x.outcome = .error e) (f : α → Logged β) :
    x.bind f = ⟨x.log, .error e⟩ := by
  simp [Logged.bind, h]

lemma outcome_run (source : SchemaSource) (path : Text) (file : FileState) :
    (run source path file).outcome =
      (Registry.ofSource source).bind fun r => (read r path file).outcome.bind fun s =>
        (s.validate r).bind fun _ => s.resolveAll.outcome := by
  simp only [run, outcome_bind]
  rfl

lemma outcome_of_some {c : Change} (h : c.failure = some e) : c.outcome = .error e := by
  simp [Change.outcome, h]

lemma outcome_of_none {c : Change} (h : c.failure = none) : c.outcome = .ok c.store := by
  simp [Change.outcome, h]

lemma run_of_stages (hr : Registry.ofSource source = .ok r)
    (hf : (read r path file).failure = none) (hv : (read r path file).store.validate r = .ok ())
    (hs : (read r path file).store.resolveAll.failure = none) :
    (run source path file).outcome = .ok (read r path file).store.resolveAll.store := by
  rw [outcome_run, hr]
  simp only [Except.bind, outcome_of_none hf, hv]
  exact outcome_of_none hs

lemma run_ends (source : SchemaSource) (path : Text) (file : FileState) :
    ∃ stage, Ends source path file stage (run source path file).outcome := by
  rw [outcome_run]
  cases hr : Registry.ofSource source with
  | error e => exact ⟨_, .schema hr⟩
  | ok r =>
    simp only [Except.bind]
    cases hf : (read r path file).failure with
    | some e =>
      rw [outcome_of_some hf]
      exact ⟨_, .read hr hf⟩
    | none =>
      simp only [outcome_of_none hf]
      cases hv : (read r path file).store.validate r with
      | error e => exact ⟨_, .validate hr hf hv⟩
      | ok u =>
        cases hs : (read r path file).store.resolveAll.failure with
        | some e =>
          simp only [outcome_of_some hs]
          exact ⟨_, .substitute hr hf hv hs⟩
        | none =>
          simp only [outcome_of_none hs]
          exact ⟨_, .loaded hr hf hv hs⟩

lemma Ends.stage_eq {stage : Option Stage} {c : ConfigError}
    (h : Ends source path file stage (.error (.config c))) : stage = some c.stage := by
  cases h with
  | schema hr => rw [Registry.ofSource_error hr c rfl]
  | read _ hf =>
    rcases read_failure hf with h | hpath
    · rw [h.belongs c rfl]
    · exact absurd rfl (Path.fault?_foreign hpath c)
  | validate _ _ hv =>
    obtain ⟨d, _, hc⟩ := Store.validate_error hv
    rw [Error.config.inj hc]
    rfl
  | substitute _ _ _ hs =>
    obtain ⟨chain, _, hc⟩ := Option.map_eq_some_iff.mp hs
    rw [← Error.config.inj hc]
    rfl

lemma Ends.loads {stage : Option Stage} {s : Store} (h : Ends source path file stage (.ok s)) :
    ∃ r es, Registry.ofSource source = .ok r ∧ file.entries? = some es ∧ Loaded r es s := by
  cases h with
  | @loaded r hr hf hv hs =>
    obtain ⟨es, hes, hstore, hdeclares⟩ := read_ok hf
    rw [hstore] at hv hs ⊢
    have hraw := Store.names_resolveAll (es.foldl record (Store.empty r))
    have hnames := hraw.trans (Store.names_foldl_record r es)
    refine ⟨r, es, hr, hes, ⟨?_, Store.nodup _, hnames, ?_, ?_, hs, rfl⟩⟩
    · exact Store.registry_foldl_record es
    · intro n hn
      rw [hnames, List.mem_eraseDups, List.mem_map] at hn
      obtain ⟨p, hp, rfl⟩ := hn
      exact hdeclares p hp
    · rw [hraw]
      exact Store.validate_ok hv

lemma Ends.missing {stage : Option Stage} {n : Text}
    (h : Ends source path file stage (.error (.config (.missingMandatoryKey n)))) :
    ∃ r es d, Registry.ofSource source = .ok r ∧ (Load.read r path file).failure = none ∧
      file.entries? = some es ∧
      (r.mandatory.find? fun d => decide (d.name ∉ es.map Entry.name)) = some d ∧ d.name = n := by
  obtain rfl := h.stage_eq
  cases h with
  | @validate r _ hr hf hv =>
    obtain ⟨es, hes, hstore, _⟩ := read_ok hf
    obtain ⟨d, hd, hc⟩ := Store.validate_error hv
    obtain rfl := ConfigError.missingMandatoryKey.inj (Error.config.inj hc)
    rw [hstore, Store.names_foldl_record] at hd
    simp only [List.mem_eraseDups] at hd
    exact ⟨r, es, d, hr, hf, hes, hd, rfl⟩

theorem run_outcome (source : SchemaSource) (path : Text) (file : FileState) :
    ∃ stage, Ends source path file stage (run source path file).outcome ∧
      (∀ c, (run source path file).outcome = .error (.config c) → stage = some c.stage) ∧
      (∀ s, (run source path file).outcome = .ok s → ∃ r es, Registry.ofSource source = .ok r ∧
        file.entries? = some es ∧ Loaded r es s) ∧
      ∀ n, (run source path file).outcome = .error (.config (.missingMandatoryKey n)) →
        ∃ r es d, Registry.ofSource source = .ok r ∧ (read r path file).failure = none ∧
          file.entries? = some es ∧
          (r.mandatory.find? fun d => decide (d.name ∉ es.map Entry.name)) = some d ∧
          d.name = n := by
  obtain ⟨stage, h⟩ := run_ends source path file
  refine ⟨stage, h, fun c hc => ?_, fun s hs => ?_, fun n hn => ?_⟩
  · rw [hc] at h
    exact h.stage_eq
  · rw [hs] at h
    exact h.loads
  · rw [hn] at h
    exact h.missing

end Load

end PropertyFile
