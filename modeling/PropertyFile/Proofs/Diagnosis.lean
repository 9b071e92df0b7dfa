import Mathlib
import PropertyFile.Proofs.Collection
import PropertyFile.Proofs.Console
import PropertyFile.Proofs.Defaults
import PropertyFile.Proofs.Order
import PropertyFile.Proofs.SchemaFiles
import PropertyFile.Proofs.Sorting

/-! A command prints all it has to print, or has its error diagnosed, unless a line cannot be
written or a default leads to a cycle. -/

namespace PropertyFile

open Relation (TransGen)
open Resolution (Flat Leads Reaches)

namespace Store

variable {s : Store} {d : Descriptor} {e : Error}

/-- A key without a text of its own whose default leads to a cycle of stored values. -/
def Stuck (s : Store) (d : Descriptor) : Prop :=
  (s.values.find? d.name).getD [] = [] ∧
    ∃ m, Reaches s.values d.default m ∧ TransGen (Leads s.values) m m

lemma require_of_mem (h : d ∈ s.registry.descriptors) :
    s.registry.require (.name d.name) = .ok d := by
  simp [Registry.require, KeyRef.name?, bind, Except.bind, Registry.find?_of_mem h]

lemma get_error (h : d ∈ s.registry.descriptors) (he : s.get (.name d.name) = .error e) :
    ∃ c, e = .config (.cyclicReference c) := by
  rw [get_of_require (require_of_mem h)] at he
  split at he
  · cases ho : (resolve (visible s.registry s.values) none d.default).outcome with
    | ok t =>
      rw [ho] at he
      cases he
    | error c =>
      rw [ho] at he
      exact ⟨c, (Except.error.inj he).symm⟩
  · cases he

lemma get_error_iff (hd : ∀ n ∈ s.values.names, s.registry.declares n = true)
    (h : d ∈ s.registry.descriptors) : (∃ e, s.get (.name d.name) = .error e) ↔ s.Stuck d := by
  rw [get_of_require (require_of_mem h), visible_of_declared hd, Stuck]
  by_cases hv : (s.values.find? d.name).getD [] = []
  · have hcyclic := Resolution.cyclic_iff s.values none d.default
    simp only [reduceCtorEq, false_or] at hcyclic
    rw [if_pos hv, ← hcyclic, and_iff_right hv]
    cases (resolve s.values none d.default).outcome <;> simp [Except.mapError]
  · simp [hv]

end Store

namespace Command

open Store (record)

variable {o : Outside} {decode : Decoder} {r : Request} {schema config : FileState} {s : Store}
  {e : Error} {d : Descriptor} {value : Option Text} {out : Output}

inductive Settled (o : Outside) (r : Request) (schema config : FileState) : Output → Prop
  | complete {s : Store} {us : List Text} : (load o.decode r schema config).outcome = .ok s →
    outputs o r s = us.map .ok →
    Settled o r schema config ⟨0, us.flatten, logged o r schema config, none⟩
  | diagnosed {e : Error} {us : List Text} : Fails o.decode r schema config e →
    diagnosed o r e = us.map .ok →
    Settled o r schema config ⟨1, [], logged o r schema config ++ us.flatten, none⟩

inductive Interrupted (o : Outside) (r : Request) (schema config : FileState) : Output → Prop
  | unread {s : Store} {before after : List (Except Error Text)} {us c : List Text}
    {d : Descriptor} : r.action = .show none → (load o.decode r schema config).outcome = .ok s →
    d ∈ s.registry.descriptors → s.Stuck d →
    s.get (.name d.name) = .error (.config (.cyclicReference c)) →
    lines r s = before ++ .error (.config (.cyclicReference c)) :: after →
    before.map (fun l => l.bind o.print) = us.map .ok →
    Interrupted o r schema config ⟨1, us.flatten, logged o r schema config,
      some (.config (.cyclicReference c))⟩
  | unprinted {s : Store} {before after : List (Except Error Text)} {us : List Text} {t : Text}
    {e : Error} : (load o.decode r schema config).outcome = .ok s →
    lines r s = before ++ .ok t :: after → before.map (fun l => l.bind o.print) = us.map .ok →
    o.print t = .error e →
    Interrupted o r schema config ⟨1, us.flatten, logged o r schema config, some e⟩
  | undiagnosed {before after us : List Text} {t : Text} {e e' : Error} :
    Fails o.decode r schema config e → diagnosis r.action.name e = before ++ t :: after →
    before.map o.printError = us.map .ok → o.printError t = .error e' →
    Interrupted o r schema config ⟨1, [], logged o r schema config ++ us.flatten, some e'⟩

structure Printable (o : Outside) (r : Request) (schema config : FileState) : Prop where
  lines : ∀ s, (load o.decode r schema config).outcome = .ok s →
    ∀ t, .ok t ∈ lines r s → ∃ u, o.print t = .ok u
  diagnosis : ∀ e, Fails o.decode r schema config e →
    ∀ t ∈ diagnosis r.action.name e, ∃ u, o.printError t = .ok u

lemma load_ok (h : (load decode r schema config).outcome = .ok s) :
    ∃ registry es, SchemaFile.read decode r.schema schema = .ok registry ∧
      config.entries? = some es ∧ Load.Loaded registry es s := by
  unfold load at h
  cases hr : SchemaFile.read decode r.schema schema with
  | error e =>
    rw [hr] at h
    cases h
  | ok registry =>
    rw [hr] at h
    obtain ⟨stage, hends⟩ := Load.run_ends (.registry registry) r.config config
    rw [h] at hends
    obtain ⟨_, es, hsource, hes, hloaded⟩ := hends.loads
    obtain rfl := Except.ok.inj hsource
    exact ⟨registry, es, rfl, hes, hloaded⟩

lemma declared_of_load (h : (load decode r schema config).outcome = .ok s) :
    ∀ n ∈ s.values.names, s.registry.declares n = true := by
  obtain ⟨registry, es, _, _, hloaded⟩ := load_ok h
  rw [hloaded.registry]
  exact hloaded.declared

lemma mem_lines (ha : r.action = .show none) (hd : d ∈ s.registry.descriptors) :
    (s.get (.name d.name)).map (row d.name) ∈ lines r s := by
  rw [lines, ha]
  exact List.mem_map.mpr ⟨d.name, Text.mem_sorted.mpr (List.mem_map_of_mem hd), rfl⟩

lemma lines_of_asked (h : asked r s = .error e) :
    r.action ≠ .show none ∧ lines r s = [.error e] := by
  rw [asked] at h
  rw [lines]
  cases hr : r.action with
  | check =>
    rw [hr] at h
    cases h
  | «show» key? =>
    rw [hr] at h
    cases key? with
    | none => cases h
    | some key =>
      cases hv : s.get (.name key) with
      | error e' =>
        obtain rfl : e' = e := by simpa [Action.key?, Option.mapM, hv] using h
        exact ⟨by simp, by simp [hv, Except.map]⟩
      | ok v => simp [Action.key?, Option.mapM, hv] at h

lemma listed_of_error (ha : asked r s = .ok value) (h : .error e ∈ lines r s) :
    r.action = .show none ∧ ∃ d ∈ s.registry.descriptors, s.get (.name d.name) = .error e := by
  rw [asked] at ha
  rw [lines] at h
  cases hr : r.action with
  | check => simp [hr] at h
  | «show» key? =>
    rw [hr] at ha h
    cases key? with
    | none =>
      obtain ⟨name, hname, hrow⟩ := List.mem_map.mp h
      obtain ⟨d, hd, rfl⟩ := List.mem_map.mp (Text.mem_sorted.mp hname)
      refine ⟨rfl, d, hd, ?_⟩
      cases hv : s.get (.name d.name) with
      | error e' => simpa [hv, Except.map] using hrow
      | ok v => simp [hv, Except.map] at hrow
    | some key =>
      cases hv : s.get (.name key) with
      | error e' => simp [Action.key?, Option.mapM, hv] at ha
      | ok v => simp [hv, Except.map] at h

lemma ends_of_failure (h : Fails o.decode r schema config e) (handlers : List (Message → Text)) :
    Settled o r schema config (perform o r schema config (.silent handlers)).1 ∨
      Interrupted o r schema config (perform o r schema config (.silent handlers)).1 := by
  rw [(perform_of_failure h handlers).1]
  rcases printed_ends (diagnosed o r e) with ⟨us, hus, hp⟩ | ⟨us, e', rest, hus, hp⟩
  · rw [hp]
    exact .inl (.diagnosed h hus)
  · rw [hp]
    obtain ⟨before, tail, hlines, hbefore, htail⟩ := List.map_eq_append_iff.mp hus
    obtain ⟨t, after, rfl, ht, -⟩ := List.map_eq_cons_iff.mp htail
    exact .inr (.undiagnosed h hlines hbefore ht)

lemma ends_of_loaded (hl : (load o.decode r schema config).outcome = .ok s)
    (ha : asked r s = .ok value) (handlers : List (Message → Text)) :
    Settled o r schema config (perform o r schema config (.silent handlers)).1 ∨
      Interrupted o r schema config (perform o r schema config (.silent handlers)).1 := by
  rw [(perform_of_loaded hl ha handlers).1]
  rcases printed_ends (outputs o r s) with ⟨us, hus, hp⟩ | ⟨us, e, rest, hus, hp⟩
  · rw [hp]
    exact .inl (.complete hl hus)
  · rw [hp]
    obtain ⟨before, tail, hlines, hbefore, htail⟩ := List.map_eq_append_iff.mp hus
    obtain ⟨l, after, rfl, hline, -⟩ := List.map_eq_cons_iff.mp htail
    cases l with
    | error e' =>
      obtain rfl : e' = e := Except.error.inj hline
      have hmem : .error e' ∈ lines r s := hlines ▸ by simp
      obtain ⟨haction, d, hd, hget⟩ := listed_of_error ha hmem
      obtain ⟨c, rfl⟩ := Store.get_error hd hget
      have hstuck : s.Stuck d := (Store.get_error_iff (declared_of_load hl) hd).mp ⟨_, hget⟩
      exact .inr (.unread haction hl hd hstuck hget hlines hbefore)
    | ok t => exact .inr (.unprinted hl hlines hbefore hline)

lemma perform_ends (o : Outside) (r : Request) (schema config : FileState)
    (handlers : List (Message → Text)) :
    Settled o r schema config (perform o r schema config (.silent handlers)).1 ∨
      Interrupted o r schema config (perform o r schema config (.silent handlers)).1 := by
  rcases fails_or_loads o.decode r schema config with ⟨e, h⟩ | ⟨s, value, hl, ha⟩
  · exact ends_of_failure h handlers
  · exact ends_of_loaded hl ha handlers

lemma Fails.error_eq {e' : Error} (h : Fails decode r schema config e)
    (h' : Fails decode r schema config e') : e = e' := by
  cases h with
  | load hl =>
    cases h' with
    | load hl' => exact Except.error.inj (hl.symm.trans hl')
    | value hl' _ => cases hl.symm.trans hl'
  | value hl ha =>
    cases h' with
    | load hl' => cases hl.symm.trans hl'
    | value hl' ha' =>
      obtain rfl := Except.ok.inj (hl.symm.trans hl')
      exact Except.error.inj (ha.symm.trans ha')

lemma exists_of_mem {α : Type} {as : List α} {f : α → Except Error Text} {us : List Text}
    (h : as.map f = us.map .ok) {a : α} (ha : a ∈ as) : ∃ u, f a = .ok u := by
  obtain ⟨u, -, hu⟩ := List.mem_map.mp (h ▸ List.mem_map_of_mem ha)
  exact ⟨u, hu.symm⟩

lemma Settled.not_stuck (h : Settled o r schema config out) (ha : r.action = .show none)
    (hl : (load o.decode r schema config).outcome = .ok s) (hd : d ∈ s.registry.descriptors) :
    ¬ s.Stuck d := by
  rw [← Store.get_error_iff (declared_of_load hl) hd]
  rintro ⟨e, he⟩
  -- a complete listing has a row for every key
  cases h with
  | complete hl' hus =>
    obtain rfl := Except.ok.inj (hl.symm.trans hl')
    obtain ⟨u, hu⟩ := exists_of_mem hus (mem_lines ha hd)
    rw [he] at hu
    cases hu
  | diagnosed hf _ =>
    cases hf with
    | load hl' => cases hl.symm.trans hl'
    | value _ hasked => exact (lines_of_asked hasked).1 ha

lemma Settled.printable (h : Settled o r schema config out) : Printable o r schema config := by
  cases h with
  | @complete s us hl hus =>
    refine ⟨fun s' hl' t ht => ?_, fun e he => ?_⟩
    · obtain rfl := Except.ok.inj (hl.symm.trans hl')
      exact exists_of_mem hus ht
    · cases he with
      | load hl' => cases hl.symm.trans hl'
      | value hl' hasked =>
        obtain rfl := Except.ok.inj (hl.symm.trans hl')
        obtain ⟨u, hu⟩ := exists_of_mem hus (a := .error e) (by simp [lines_of_asked hasked])
        cases hu
  | @diagnosed e us hf hus =>
    refine ⟨fun s hl t ht => ?_, fun e' he' t ht => ?_⟩
    · cases hf with
      | load hl' => cases hl.symm.trans hl'
      | value hl' hasked =>
        obtain rfl := Except.ok.inj (hl.symm.trans hl')
        simp [lines_of_asked hasked] at ht
    · obtain rfl := hf.error_eq he'
      exact exists_of_mem hus ht

lemma Interrupted.unprintable (h : Interrupted o r schema config out) :
    ¬ (Printable o r schema config ∧ ∀ s, r.action = .show none →
      (load o.decode r schema config).outcome = .ok s → ∀ d ∈ s.registry.descriptors,
        ¬ s.Stuck d) := by
  rintro ⟨hp, hstuck⟩
  cases h with
  | unread ha hl hd hs => exact hstuck _ ha hl _ hd hs
  | @unprinted _ _ _ _ t _ hl hlines _ ht =>
    obtain ⟨u, hu⟩ := hp.lines _ hl t (by simp [hlines])
    cases ht.symm.trans hu
  | @undiagnosed _ _ _ t _ _ hf hlines _ ht =>
    obtain ⟨u, hu⟩ := hp.diagnosis _ hf t (by simp [hlines])
    cases ht.symm.trans hu

lemma not_leads_of_flat {registry : Registry} {es : List Entry}
    (h : Load.Loaded registry es s) (hf : Flat (es.foldl record (Store.empty registry)).values)
    (n m : Text) : ¬ Leads s.values n m := by
  obtain ⟨hreg, -, -, hdeclared, -, hnone, rfl⟩ := h
  set raw := es.foldl record (Store.empty registry)
  have hd : ∀ n ∈ raw.values.names, raw.registry.declares n = true := by
    have hregistry : raw.registry = registry := hreg
    rw [← Store.names_resolveAll, hregistry]
    exact hdeclared
  obtain ⟨hcycle, hok⟩ := Store.resolveAll_flat hd hf
  have hsafe : ¬ ∃ n, Resolution.Doomed raw.values n := by
    rw [← hcycle, hnone]
    simp
  obtain ⟨-, hvalues⟩ := hok hsafe
  -- every loaded value is what its raw value resolves to
  rintro ⟨w, hw, hm⟩
  rw [hvalues, Option.bind_eq_some_iff] at hw
  obtain ⟨v, hv, hx⟩ := hw
  cases ho : (resolve raw.values (some n) v).outcome with
  | error c => simp [ho, Except.toOption] at hx
  | ok x =>
    obtain rfl : x = w := by simpa [ho, Except.toOption] using hx
    simp [hf n v x hv ho] at hm

theorem perform_settled (o : Outside) (r : Request) (schema config : FileState)
    (handlers : List (Message → Text)) :
    let out := (perform o r schema config (.silent handlers)).1
    (Settled o r schema config out ∨ Interrupted o r schema config out) ∧
    (Settled o r schema config out ↔ Printable o r schema config ∧ ∀ s, r.action = .show none →
      (load o.decode r schema config).outcome = .ok s → ∀ d ∈ s.registry.descriptors,
        ¬ s.Stuck d) ∧
    ∀ registry es, SchemaFile.read o.decode r.schema schema = .ok registry →
      config.entries? = some es → Flat (es.foldl record (Store.empty registry)).values →
      Printable o r schema config → Settled o r schema config out := by
  intro out
  have hends := perform_ends o r schema config handlers
  have hsettled (h : Printable o r schema config ∧ ∀ s, r.action = .show none →
      (load o.decode r schema config).outcome = .ok s → ∀ d ∈ s.registry.descriptors,
        ¬ s.Stuck d) : Settled o r schema config out :=
    hends.resolve_right fun hi => hi.unprintable h
  refine ⟨hends, ⟨fun h => ⟨h.printable, fun s ha hl d hd => h.not_stuck ha hl hd⟩, hsettled⟩, ?_⟩
  intro registry es hr hes hf hp
  refine hsettled ⟨hp, ?_⟩
  rintro s - hl d hd ⟨-, m, -, hm⟩
  obtain ⟨registry', es', hr', hes', hloaded⟩ := load_ok hl
  obtain rfl := Except.ok.inj (hr.symm.trans hr')
  obtain rfl := Option.some.inj (hes.symm.trans hes')
  obtain ⟨k, hk, -⟩ := TransGen.head'_iff.mp hm
  exact not_leads_of_flat hloaded hf _ _ hk

theorem listing_breaks_off :
    ¬ ∀ (o : Outside) (r : Request) (schema config : FileState),
      Printable o r schema config →
      Settled o r schema config (perform o r schema config (.silent [])).1 := by
  intro h
  let r : Request := ⟨.show none, "c", "s", false⟩
  let schema : Text := "BB:\nC: \x7bdefault: $BB\x7d"
  let config : Text := "BB=$$\x7bXX\x7dBB"
  let payload : Payload := .mapping [(.text "BB", .null),
    (.text "C", .mapping [(.text "default", .text "$BB")])]
  let decode : Decoder := fun t => if t = schema then .ok payload else .error (.notYaml [])
  let line (t : Text) : Except Error Text := .ok (t ++ "\n")
  let o : Outside := ⟨decode, line, line, fun m => (Sink.ofLevel .info).shown [m]⟩
  let registry : Registry :=
    ⟨[⟨"BB", false, [], rfl⟩, ⟨"C", false, "$BB", rfl⟩], by simp, by decide⟩
  let raw : Store := ⟨registry, [("BB", "$$\x7bXX\x7dBB")], by decide⟩
  have hprintable (schema config : FileState) : Printable o r schema config :=
    ⟨fun _ _ t _ => ⟨t ++ "\n", rfl⟩, fun _ _ t _ => ⟨t ++ "\n", rfl⟩⟩
  have hschema : SchemaFile.read decode r.schema (.content (Utf8.encode schema)) =
      .ok registry := by
    have hdecode : Utf8.decode (Utf8.encode schema) = .ok schema := rfl
    have hunified : Text.unified schema = schema := rfl
    have hpayload : decode schema = .ok payload := if_pos rfl
    have hregistry (label : Text) : Registry.ofPayload label payload = .ok registry := rfl
    rw [SchemaFile.read_eq rfl]
    simp only [SchemaFile.readFile, SchemaFile.ofText, hdecode, hunified, hpayload, hregistry]
  have hread : Load.read registry r.config (.content (Utf8.encode config)) =
      ⟨raw, none, [.updatedKey "BB"]⟩ := rfl
  have hfailure : raw.resolveAll.failure = none := Option.isNone_iff_eq_none.mp (by cbv)
  have hvalues : raw.resolveAll.store.values = ([("BB", "$BB")] : Index Text) := by cbv
  have hload : (load decode r (.content (Utf8.encode schema))
      (.content (Utf8.encode config))).outcome = .ok raw.resolveAll.store := by
    rw [load, hschema]
    refine (Load.run_of_stages rfl ?_ ?_ ?_).trans ?_
    · rw [hread]
    · rw [hread]
      rfl
    · rw [hread]
      exact hfailure
    · rw [hread]
  have hleads : Leads raw.resolveAll.store.values "BB" "BB" := by
    rw [hvalues]
    exact ⟨"$BB", rfl, by decide⟩
  have hstuck : raw.resolveAll.store.Stuck ⟨"C", false, "$BB", rfl⟩ := by
    refine ⟨?_, "BB", ⟨"BB", by decide, .refl⟩, .single hleads⟩
    rw [hvalues]
    rfl
  exact (h o r _ _ (hprintable _ _)).not_stuck rfl hload (by decide) hstuck

end Command

end PropertyFile
