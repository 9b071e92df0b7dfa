import PropertyFile.Proofs.Collection
import PropertyFile.Proofs.Stages

/-! What a list of entries makes a registry of, and what is seen of it. -/

namespace PropertyFile

open Text (blank)

lemma Descriptor.make_eq_error_iff {name default : Text} {mandatory : Bool} {e : Error} :
    make name mandatory default = .error e ↔ blank name = true ∧ e = .blankName := by
  unfold make
  split
  · rename_i hname
    simp [hname]
  · rename_i hname
    simp [hname, eq_comm]

namespace KeyRef

inductive Contributes : KeyRef → Descriptor → Prop
  | name {d : Descriptor} : d.mandatory = false → d.default = [] → Contributes (.name d.name) d
  | descriptor (d : Descriptor) : Contributes (.descriptor d) d
  | value {m : Member} {d : Descriptor} : m.value = .descriptor d → Contributes (.member m) d
  | label {m : Member} {d : Descriptor} : (∀ e, m.value ≠ .descriptor e) → d.name = m.label →
    d.mandatory = false → d.default = [] → Contributes (.member m) d

inductive Faulty : KeyRef → Error → Prop
  | name {t : Text} : blank t = true → Faulty (.name t) .blankName
  | label {m : Member} : (∀ e, m.value ≠ .descriptor e) → blank m.label = true →
    Faulty (.member m) .blankName
  | other (shown : Text) : Faulty (.other shown) (.notKey shown)

variable {k : KeyRef} {d : Descriptor} {e : Error}

lemma descriptor?_label {m : Member} (h : ∀ e, m.value ≠ .descriptor e) :
    (KeyRef.member m).descriptor? = Descriptor.plain m.label := by
  rw [descriptor?, Member.descriptor]
  split
  · exact absurd ‹_› (h _)
  · rfl

lemma descriptor?_value {m : Member} (h : m.value = .descriptor d) :
    (KeyRef.member m).descriptor? = .ok d := by
  rw [descriptor?, Member.descriptor, h]

lemma descriptor?_eq_ok_iff : k.descriptor? = .ok d ↔ k.Contributes d := by
  constructor
  · intro h
    cases k with
    | name t =>
      obtain ⟨rfl, hmandatory, hdefault⟩ := Descriptor.make_eq_ok_iff.mp h
      exact .name hmandatory hdefault
    | descriptor d' =>
      obtain rfl := Except.ok.inj h
      exact .descriptor d'
    | member m =>
      by_cases hm : ∃ d', m.value = .descriptor d'
      · obtain ⟨d', hd'⟩ := hm
        rw [descriptor?_value hd'] at h
        obtain rfl := Except.ok.inj h
        exact .value hd'
      · rw [not_exists] at hm
        rw [descriptor?_label hm] at h
        obtain ⟨hname, hmandatory, hdefault⟩ := Descriptor.make_eq_ok_iff.mp h
        exact .label hm hname hmandatory hdefault
    | other shown => cases h
  · intro h
    cases h with
    | name hmandatory hdefault =>
      exact Descriptor.make_eq_ok_iff.mpr ⟨rfl, hmandatory, hdefault⟩
    | descriptor => rfl
    | value hm => exact descriptor?_value hm
    | label hm hname hmandatory hdefault =>
      rw [descriptor?_label hm]
      exact Descriptor.make_eq_ok_iff.mpr ⟨hname, hmandatory, hdefault⟩

lemma descriptor?_eq_error_iff : k.descriptor? = .error e ↔ k.Faulty e := by
  constructor
  · intro h
    cases k with
    | name t =>
      obtain ⟨hblank, rfl⟩ := Descriptor.make_eq_error_iff.mp h
      exact .name hblank
    | descriptor d => cases h
    | member m =>
      by_cases hm : ∃ d, m.value = .descriptor d
      · obtain ⟨d, hd⟩ := hm
        rw [descriptor?_value hd] at h
        cases h
      · rw [not_exists] at hm
        rw [descriptor?_label hm] at h
        obtain ⟨hblank, rfl⟩ := Descriptor.make_eq_error_iff.mp h
        exact .label hm hblank
    | other shown =>
      obtain rfl := Except.error.inj h
      exact .other shown
  · intro h
    cases h with
    | name hblank => exact Descriptor.make_eq_error_iff.mpr ⟨hblank, rfl⟩
    | label hm hblank =>
      rw [descriptor?_label hm]
      exact Descriptor.make_eq_error_iff.mpr ⟨hblank, rfl⟩
    | other => rfl

end KeyRef

namespace Registry

variable {l : List KeyRef} {ds : List Descriptor} {r : Registry} {key : KeyRef} {d : Descriptor}
  {n : Text} {e : Error}

inductive Refused : List KeyRef → Error → Prop
  | empty : Refused [] (.config .emptySchema)
  | entry {before after : List KeyRef} {k : KeyRef} {e : Error} :
    (∀ k ∈ before, ∃ d, k.Contributes d) → k.Faulty e → Refused (before ++ k :: after) e

structure Views (r : Registry) (ds : List Descriptor) : Prop where
  names : r.names = (ds.map Descriptor.name).eraseDups
  size : r.size = r.names.length
  iteration : List.Forall₂ (Last ds) r.names r.descriptors
  contains : ∀ n, r.contains (.name n) = true ↔ n ∈ r.names
  find : ∀ n d, r.find? n = some d ↔ Last ds n d
  unknown : ∀ n, r.find? n = none ↔ ∀ d ∈ ds, d.name ≠ n
  require : ∀ (key : KeyRef) (n : Text), key.name? = .ok n →
    (∀ d, r.require key = .ok d ↔ Last ds n d) ∧
    ∀ e, r.require key = .error e ↔ (∀ d ∈ ds, d.name ≠ n) ∧ e = .config (.unknownKey n)
  mandatory : r.mandatory.Sublist r.descriptors ∧
    ∀ d, d ∈ r.mandatory ↔ Last ds d.name d ∧ d.mandatory = true

lemma ofEntries_eq_ok (h : ofEntries l = .ok r) :
    ∃ ds, List.Forall₂ KeyRef.Contributes l ds ∧ ofDescriptors ds = .ok r := by
  obtain ⟨ds, hds, hr⟩ := Traversal.bind_eq_ok_iff.mp h
  refine ⟨ds, (Traversal.mapM_eq_ok_iff.mp hds).imp fun k d => ?_, hr⟩
  exact KeyRef.descriptor?_eq_ok_iff.mp

lemma ofDescriptors_eq_error_iff :
    ofDescriptors ds = .error e ↔ ds = [] ∧ e = .config .emptySchema := by
  constructor
  · intro h
    refine ⟨?_, ofDescriptors_error h⟩
    by_contra hne
    obtain ⟨r, hr, -⟩ := ofDescriptors_ok hne
    rw [hr] at h
    cases h
  · rintro ⟨rfl, rfl⟩
    rfl

lemma ofEntries_eq_error_iff : ofEntries l = .error e ↔ Refused l e := by
  have hok {k : KeyRef} : (∃ d, k.descriptor? = .ok d) ↔ ∃ d, k.Contributes d := by
    simp only [KeyRef.descriptor?_eq_ok_iff]
  rw [ofEntries, Traversal.bind_eq_error_iff]
  constructor
  · rintro (h | ⟨ds, hds, h⟩)
    · obtain ⟨before, k, after, rfl, hbefore, hk⟩ := Traversal.mapM_eq_error_iff.mp h
      exact .entry (fun k hk => hok.mp (hbefore k hk)) (KeyRef.descriptor?_eq_error_iff.mp hk)
    · obtain ⟨rfl, rfl⟩ := ofDescriptors_eq_error_iff.mp h
      cases Traversal.mapM_eq_ok_iff.mp hds
      exact .empty
  · intro h
    cases h with
    | empty => exact .inr ⟨[], rfl, rfl⟩
    | entry hbefore hk =>
      refine .inl (Traversal.mapM_eq_error_iff.mpr ⟨_, _, _, rfl, fun k hk => ?_, ?_⟩)
      · exact hok.mpr (hbefore k hk)
      · exact KeyRef.descriptor?_eq_error_iff.mpr hk

lemma find?_eq_none_iff (hnames : r.names = (ds.map Descriptor.name).eraseDups) :
    r.find? n = none ↔ ∀ d ∈ ds, d.name ≠ n := by
  rw [← Option.not_isSome_iff_eq_none, find?_isSome, declares, hnames]
  simp

lemma require_eq (h : key.name? = .ok n) :
    r.require key = (r.find? n).elim (.error (.config (.unknownKey n))) .ok := by
  rw [require, h]
  cases hf : r.find? n <;> simp [hf, bind, Except.bind]

lemma require_eq_ok_iff (h : key.name? = .ok n) : r.require key = .ok d ↔ r.find? n = some d := by
  rw [require_eq h]
  cases r.find? n <;> simp

lemma require_eq_error_iff (h : key.name? = .ok n) :
    r.require key = .error e ↔ r.find? n = none ∧ e = .config (.unknownKey n) := by
  rw [require_eq h]
  cases r.find? n <;> simp [eq_comm]

lemma mem_descriptors_iff : d ∈ r.descriptors ↔ r.find? d.name = some d := by
  constructor
  · exact find?_of_mem
  · exact List.mem_of_find?_eq_some

lemma views_of_ok (h : ofDescriptors ds = .ok r) : Views r ds := by
  obtain ⟨hnames, hfind⟩ := ofDescriptors_eq_ok h
  have hnone (n : Text) : r.find? n = none ↔ ∀ d ∈ ds, d.name ≠ n := find?_eq_none_iff hnames
  refine ⟨hnames, ?_, ?_, ?_, hfind, hnone, ?_, ?_, ?_⟩
  · rw [names, List.length_map, size]
  · rw [names, List.forall₂_map_left_iff, List.forall₂_same]
    exact fun d hd => (hfind d.name d).mp (mem_descriptors_iff.mp hd)
  · exact fun n => List.contains_iff_mem
  · intro key n hn
    refine ⟨fun d => ?_, fun e => ?_⟩
    · rw [require_eq_ok_iff hn, hfind]
    · rw [require_eq_error_iff hn, hnone]
  · exact List.filter_sublist
  · intro d
    rw [mandatory, List.mem_filter, mem_descriptors_iff, hfind]

theorem ofSource_entries (l : List KeyRef) :
    (∀ e, ofSource (.entries l) = .error e ↔ Refused l e) ∧
    (ofSource (.entries l) = .error (.config .emptySchema) ↔ l = []) ∧
    ∀ r, ofSource (.entries l) = .ok r →
      ∃ ds, List.Forall₂ KeyRef.Contributes l ds ∧ Views r ds := by
  refine ⟨fun e => ofEntries_eq_error_iff, ?_, fun r hr => ?_⟩
  · rw [ofSource, ofEntries_eq_error_iff]
    constructor
    · intro h
      cases h with
      | empty => rfl
      | entry _ hk => cases hk
    · rintro rfl
      exact .empty
  · obtain ⟨ds, hds, hr⟩ := ofEntries_eq_ok hr
    exact ⟨ds, hds, views_of_ok hr⟩

theorem ofSource_entries_repeated :
    let d : Descriptor := ⟨"AB", true, "x", rfl⟩
    let cd : Descriptor := ⟨"CD", false, [], rfl⟩
    let l : List KeyRef := [.name "AB", .member ⟨"CD", .integer 1, false⟩, .descriptor d]
    let r : Registry := ⟨[d, cd], by simp, by decide⟩
    (ofSource (.entries l) = .ok r ∧ ∃ ds, List.Forall₂ KeyRef.Contributes l ds ∧ Views r ds) ∧
    ofSource (.entries (.name "AB" :: .other "42" :: [.name []])) = .error (.notKey "42") := by
  intro d cd l r
  have hr : ofSource (.entries l) = .ok r := rfl
  let ab : Descriptor := ⟨"AB", false, [], rfl⟩
  have hbefore : ∀ k ∈ [KeyRef.name "AB"], ∃ d, k.Contributes d := by
    intro k hk
    obtain rfl := List.mem_singleton.mp hk
    exact ⟨ab, .name (d := ab) rfl rfl⟩
  have hrefused := (ofSource_entries ([.name "AB"] ++ .other "42" :: [.name []])).1 (.notKey "42")
  exact ⟨⟨hr, (ofSource_entries l).2.2 r hr⟩, hrefused.mpr (.entry hbefore (.other "42"))⟩

end Registry

end PropertyFile
