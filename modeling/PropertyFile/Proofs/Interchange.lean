import PropertyFile.Proofs.Aliases
import PropertyFile.Proofs.Declarations

/-! What a registry declares can be written down as a payload and is read back from it. -/

namespace PropertyFile

namespace Declaration

open Payload (Mapping Names)

def written (d : Descriptor) : Payload × Payload :=
  (.text d.name,
    .mapping [(.text "mandatory", .boolean d.mandatory), (.text "default", .text d.default)])

def wrapped (m : Mapping) : Payload := .mapping [(.text "keys", .mapping m)]

variable {label : Text} {d : Descriptor} {ds : List Descriptor} {m : Mapping}

lemma declares_written (h : Text.trim d.name = d.name) :
    Declares (written d).1 (written d).2 d := by
  have hname : Names (.text d.name) d.name := ⟨by simp, d.name, rfl, d.named, h⟩
  apply Declares.fields hname
  · rfl
  · exact .present (.inl rfl)
  · exact .scalar (by simp) (by simp) id rfl

lemma descriptor_written (h : Text.trim d.name = d.name) :
    descriptor label (written d).1 (written d).2 = .ok d :=
  descriptor_of_declares ⟨trivial, trivial, trivial, trivial, trivial⟩ (declares_written h)

lemma mapM_written (h : ∀ d ∈ ds, Text.trim d.name = d.name) :
    (ds.map written).mapM (fun e => descriptor label e.1 e.2) = .ok ds := by
  rw [Traversal.mapM_eq_ok_iff, List.forall₂_map_left_iff, List.forall₂_same]
  exact fun d hd => descriptor_written (h d hd)

lemma ofPayload_wrapped (label : Text) (m : Mapping) :
    Registry.ofPayload label (wrapped m) =
      m.mapM (fun e => descriptor label e.1 e.2) >>= Registry.ofDescriptors :=
  ofPayload_of_holds (.wrapped rfl rfl)

lemma ofPayload_written (h : ∀ d ∈ ds, Text.trim d.name = d.name) :
    Registry.ofPayload label (wrapped (ds.map written)) = Registry.ofDescriptors ds := by
  rw [ofPayload_wrapped, mapM_written h]
  rfl

end Declaration

namespace Registry

open Payload (Mapping)

variable {ds es : List Descriptor} {d : Descriptor}

lemma declare_of_not_mem (h : d.name ∉ ds.map Descriptor.name) : declare ds d = ds ++ [d] := by
  induction ds with
  | nil => rfl
  | cons e ds ih =>
    rw [List.map_cons, List.mem_cons, not_or] at h
    rw [declare, if_neg (Ne.symm h.1), ih h.2]
    rfl

lemma foldl_declare_of_nodup (h : ((es ++ ds).map Descriptor.name).Nodup) :
    ds.foldl declare es = es ++ ds := by
  induction ds generalizing es with
  | nil => exact (List.append_nil es).symm
  | cons d ds ih =>
    have hd : d.name ∉ es.map Descriptor.name := by
      rw [List.map_append] at h
      exact fun hmem => List.disjoint_of_nodup_append h hmem List.mem_cons_self
    rw [List.foldl_cons, declare_of_not_mem hd, ih]
    · simp
    · simpa using h

lemma ofDescriptors_descriptors (r : Registry) : ofDescriptors r.descriptors = .ok r := by
  have hcollect : collect r.descriptors = r.descriptors := foldl_declare_of_nodup r.nodup
  have hne : collect r.descriptors ≠ [] := hcollect.trans_ne r.nonempty
  rw [ofDescriptors, dif_neg hne]
  congr

def toPayload (r : Registry) : Payload :=
  Declaration.wrapped (r.descriptors.map Declaration.written)

theorem ofPayload_toPayload (label : Text) :
    (∀ r : Registry, (∀ n ∈ r.names, Text.trim n = n) →
      ofPayload label r.toPayload = .ok r ∧
      ofSource (.entries (r.descriptors.map .descriptor)) = .ok r) ∧
    ∀ m : Mapping, (∀ inner, m.find? "keys" ≠ some (.mapping inner)) →
      ofPayload label (.mapping m) = ofPayload label (Declaration.wrapped m) := by
  refine ⟨fun r h => ⟨?_, ?_⟩, fun m h => ?_⟩
  · have htrim : ∀ d ∈ r.descriptors, Text.trim d.name = d.name := fun d hd =>
      h d.name (List.mem_map_of_mem hd)
    rw [toPayload, Declaration.ofPayload_written htrim, ofDescriptors_descriptors]
  · rw [ofSource, ofEntries_descriptors, ofDescriptors_descriptors]
  · rw [Declaration.ofPayload_of_holds (.bare h), Declaration.ofPayload_wrapped]

theorem ofPayload_toPayload_keys :
    let r : Registry :=
      ⟨[⟨"keys", true, "no", rfl⟩, ⟨"AB", false, " 1.0 ", rfl⟩], by simp, by decide⟩
    let m : Mapping := [(.text "AB", .null), (.text "keys", .integer 5)]
    (∀ n ∈ r.names, Text.trim n = n) ∧ ofPayload "Schema" r.toPayload = .ok r ∧
    (∀ inner, m.find? "keys" ≠ some (.mapping inner)) ∧
    ofPayload "Schema" (.mapping m) = ofPayload "Schema" (Declaration.wrapped m) ∧
    ofPayload "Schema" (.mapping m) =
      .error (ConfigError.schemaInvalid "Schema" (.notEntry "keys")) := by
  intro r m
  have hnames : ∀ n ∈ r.names, Text.trim n = n := by decide
  have hkeys : ∀ inner, m.find? "keys" ≠ some (.mapping inner) := by
    intro inner h
    cases h
  obtain ⟨hread, hbare⟩ := ofPayload_toPayload "Schema"
  exact ⟨hnames, (hread r hnames).1, hkeys, hbare m hkeys, rfl⟩

end Registry

end PropertyFile
