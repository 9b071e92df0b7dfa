import PropertyFile.Proofs.Entries

/-! The registry of a list of declarations, where a name stands first and is what it is declared
last. -/

namespace PropertyFile.Registry

variable {r : Registry} {ds es : List Descriptor} {d : Descriptor} {n : Text}

lemma find?_declare (ds : List Descriptor) (d : Descriptor) (n : Text) :
    (declare ds d).find? (fun e => e.name == n) =
      if d.name = n then some d else ds.find? fun e => e.name == n := by
  induction ds with
  | nil => by_cases h : d.name = n <;> simp [declare, h]
  | cons e ds ih =>
    by_cases he : e.name = d.name
    · by_cases h : d.name = n <;> simp [declare, he, h]
    · by_cases h : d.name = n
      · have hne : e.name ≠ n := fun hn => he (hn.trans h.symm)
        simp [declare, ih, h, hne]
      · simp only [declare, he, if_false, List.find?_cons, ih, h]

lemma find?_foldl_declare (ds : List Descriptor) :
    (ds.foldl declare es).find? (fun d => d.name == n) =
      (ds.reverse.find? fun d => d.name == n).or (es.find? fun d => d.name == n) := by
  induction ds generalizing es with
  | nil => simp
  | cons d ds ih =>
    rw [List.foldl_cons, ih, find?_declare, List.reverse_cons, List.find?_append]
    by_cases h : d.name = n
    · cases hf : ds.reverse.find? fun e => e.name == n <;> simp [h]
    · have hne : (d.name == n) = false := by simpa using h
      simp [h, hne]

lemma names_foldl_declare (ds : List Descriptor) (h : (es.map Descriptor.name).Nodup) :
    (ds.foldl declare es).map Descriptor.name =
      (es.map Descriptor.name ++ ds.map Descriptor.name).eraseDups := by
  induction ds generalizing es with
  | nil => simp [Index.eraseDups_of_nodup h]
  | cons d ds ih =>
    rw [List.foldl_cons, ih (nodup_declare h d), names_declare, List.map_cons]
    split
    · rename_i hd
      exact (Index.eraseDups_of_mem hd _).symm
    · simp

theorem names_collect (ds : List Descriptor) :
    (collect ds).map Descriptor.name = (ds.map Descriptor.name).eraseDups :=
  names_foldl_declare ds List.nodup_nil

theorem find?_collect (ds : List Descriptor) (n : Text) :
    (collect ds).find? (fun d => d.name == n) = ds.reverse.find? fun d => d.name == n := by
  rw [collect, find?_foldl_declare, List.find?_nil, Option.or_none]

def Last (ds : List Descriptor) (n : Text) (d : Descriptor) : Prop :=
  ∃ before after, ds = before ++ d :: after ∧ d.name = n ∧ ∀ e ∈ after, e.name ≠ n

lemma find?_reverse_eq_some_iff :
    (ds.reverse.find? fun d => d.name == n) = some d ↔ Last ds n d := by
  rw [List.find?_eq_some_iff_append]
  constructor
  · rintro ⟨hd, after, before, hds, hafter⟩
    refine ⟨before.reverse, after.reverse, ?_, by simpa using hd, fun e he => ?_⟩
    · simpa using congrArg List.reverse hds
    · simpa using hafter e (List.mem_reverse.mp he)
  · rintro ⟨before, after, rfl, hd, hafter⟩
    refine ⟨by simpa using hd, after.reverse, before.reverse, by simp, fun e he => ?_⟩
    simpa using hafter e (List.mem_reverse.mp he)

lemma collect_eq_nil_iff : collect ds = [] ↔ ds = [] := by
  rw [← List.map_eq_nil_iff, names_collect]
  cases ds <;> simp [List.eraseDups_cons]

theorem ofDescriptors_ok (h : ds ≠ []) : ∃ r, ofDescriptors ds = .ok r ∧
    r.names = (ds.map Descriptor.name).eraseDups ∧
    ∀ n, r.find? n = ds.reverse.find? fun d => d.name == n := by
  have hne : collect ds ≠ [] := fun hc => h (collect_eq_nil_iff.mp hc)
  exact ⟨⟨collect ds, hne, nodup_collect ds⟩, dif_neg hne, names_collect ds, find?_collect ds⟩

lemma ofDescriptors_eq_ok (h : ofDescriptors ds = .ok r) :
    r.names = (ds.map Descriptor.name).eraseDups ∧ ∀ n d, r.find? n = some d ↔ Last ds n d := by
  have hne : ds ≠ [] := by
    rintro rfl
    cases h
  obtain ⟨r', hr, hnames, hfind⟩ := ofDescriptors_ok hne
  obtain rfl := Except.ok.inj (hr.symm.trans h)
  refine ⟨hnames, fun n d => ?_⟩
  rw [hfind, find?_reverse_eq_some_iff]

lemma find?_of_nodup (hnd : (ds.map Descriptor.name).Nodup) (h : d ∈ ds) :
    ds.find? (fun e => e.name == d.name) = some d := by
  induction ds with
  | nil => cases h
  | cons e ds ih =>
    rw [List.map_cons, List.nodup_cons] at hnd
    rcases List.mem_cons.mp h with rfl | h
    · simp
    · have hne : e.name ≠ d.name := fun he => hnd.1 (he ▸ List.mem_map_of_mem h)
      rw [List.find?_cons_of_neg (by simpa using hne)]
      exact ih hnd.2 h

lemma find?_of_mem (h : d ∈ r.descriptors) : r.find? d.name = some d := find?_of_nodup r.nodup h

end PropertyFile.Registry
