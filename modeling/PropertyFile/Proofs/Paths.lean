import PropertyFile.File
import PropertyFile.Proofs.Splitting

/-! Which paths can be looked for: those without NUL whose code points all have bytes. -/

namespace PropertyFile

lemma Utf8.encodingFault?_eq_none_iff {through : CodePoint → Bool} {t : Text} :
    encodingFault? through t = none ↔ ∀ c ∈ t, c.isHalf = true → through c = true := by
  have hscan : (t.dropWhile fun c => !c.isHalf || through c) = [] ↔
      ∀ c ∈ t, c.isHalf = true → through c = true := by
    rw [List.dropWhile_eq_nil_iff]
    refine forall₂_congr fun c _ => ?_
    cases c.isHalf <;> simp
  rw [← hscan, encodingFault?]
  cases t.dropWhile fun c => !c.isHalf || through c <;> simp

namespace Path

variable {path : Text} {c : CodePoint} {e : Error}

def Openable (path : Text) : Prop :=
  ∀ c ∈ path, c ≠ .char '\x00' ∧ (c.isHalf = true → isByte c = true)

instance (path : Text) : Decidable (Openable path) :=
  inferInstanceAs (Decidable (∀ c ∈ path, c ≠ .char '\x00' ∧ (c.isHalf = true → isByte c = true)))

lemma fault?_eq_none_iff : fault? path = none ↔ Openable path := by
  have hnul : path.contains '\x00' = false ↔ ∀ c ∈ path, c ≠ .char '\x00' := by
    rw [← Bool.not_eq_true, List.contains_iff_mem]
    exact ⟨fun h c hc he => h (he ▸ hc), fun h hc => h _ hc rfl⟩
  have hbytes : Utf8.encodingFault? isByte path = none ↔
      ∀ c ∈ path, c.isHalf = true → isByte c = true := Utf8.encodingFault?_eq_none_iff
  rw [Openable, fault?]
  cases hf : Utf8.encodingFault? isByte path with
  | some f =>
    refine iff_of_false (by simp) fun h => ?_
    rw [hbytes.mpr fun c hc => (h c hc).2] at hf
    cases hf
  | none =>
    have hall := hbytes.mp hf
    simp only [ite_eq_right_iff, reduceCtorEq, imp_false, Bool.not_eq_true, hnul]
    exact ⟨fun h c hc => ⟨h c hc, hall c hc⟩, fun h c hc => (h c hc).1⟩

lemma fault?_foreign (h : fault? path = some e) (c : ConfigError) : e ≠ .config c := by
  unfold fault? at h
  split at h
  · simp [← Option.some.inj h]
  · split at h
    · simp [← Option.some.inj h]
    · cases h

lemma mem_root (h : c ∈ root path) : c = .char '/' := by
  unfold root at h
  split at h
  · exact List.mem_singleton.mp h
  · rcases List.mem_cons.mp h with h | h
    · exact h
    · exact List.mem_singleton.mp h
  · exact List.mem_singleton.mp h
  · cases h

lemma mem_joined {d : Text} {ps : List Text} (h : c ∈ Text.joined d ps) :
    c ∈ d ∨ ∃ p ∈ ps, c ∈ p := by
  cases ps with
  | nil => cases h
  | cons p ps =>
    rw [Text.joined_cons] at h
    rcases List.mem_append.mp h with h | h
    · exact .inr ⟨p, List.mem_cons_self, h⟩
    · obtain ⟨q, hq, hc⟩ := List.mem_flatMap.mp h
      rcases List.mem_append.mp hc with hc | hc
      · exact .inl hc
      · exact .inr ⟨q, List.mem_cons_of_mem p hq, hc⟩

lemma mem_components {p : Text} (h : p ∈ components path) (hc : c ∈ p) : c ∈ path := by
  have hp : p ∈ Text.pieces "/" path := List.mem_of_mem_filter h
  have hcut := Text.cut_pieces (d := "/") (by decide) path
  rw [← hcut.joined_eq]
  obtain ⟨q, ps, hps⟩ := List.exists_cons_of_ne_nil (List.ne_nil_of_mem hp)
  rw [hps] at hp ⊢
  rw [Text.joined_cons]
  rcases List.mem_cons.mp hp with rfl | hp
  · exact List.mem_append_left _ hc
  · exact List.mem_append_right _ (List.mem_flatMap.mpr ⟨p, hp, List.mem_append_right _ hc⟩)

lemma mem_normal (h : c ∈ normal path) : c ∈ path ∨ c = .char '/' ∨ c = .char '.' := by
  rw [normal] at h
  split at h
  · exact .inr (.inr (List.mem_singleton.mp h))
  · rcases List.mem_append.mp h with h | h
    · exact .inr (.inl (mem_root h))
    · rcases mem_joined h with h | ⟨p, hp, hc⟩
      · exact .inr (.inl (List.mem_singleton.mp h))
      · exact .inl (mem_components hp hc)

lemma Openable.normal (h : Openable path) : Openable (normal path) := by
  intro c hc
  rcases mem_normal hc with hc | rfl | rfl
  · exact h c hc
  · decide
  · decide

end Path

end PropertyFile
