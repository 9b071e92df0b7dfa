import Mathlib.Data.List.DropRight
import Mathlib.Tactic
import PropertyFile.Text.Blank

/-! A trimmed text is one that neither begins nor ends with white space. -/

namespace PropertyFile.Text

def Tight (t : Text) : Prop :=
  (∀ c ∈ t.head?, isBlank c = false) ∧ ∀ c ∈ t.getLast?, isBlank c = false

variable {t b : Text} {c : CodePoint}

lemma trim_eq_rdropWhile (t : Text) : trim t = (t.dropWhile isBlank).rdropWhile isBlank := rfl

lemma mem_of_mem_trim (h : c ∈ trim t) : c ∈ t := by
  rw [trim_eq_rdropWhile] at h
  have hd : c ∈ t.dropWhile isBlank := (List.rdropWhile_prefix _ _).subset h
  exact (List.dropWhile_suffix _).subset hd

lemma trim_of_tight (h : Tight t) : trim t = t := by
  have hd : t.dropWhile isBlank = t := by
    cases t with
    | nil => rfl
    | cons c t => exact List.dropWhile_cons_of_neg (by simp [h.1 c rfl])
  rw [trim_eq_rdropWhile, hd, List.rdropWhile_eq_self_iff]
  intro hne
  simp [h.2 _ (List.getLast?_eq_some_getLast hne)]

lemma trim_of_no_blank (h : ∀ c ∈ t, isBlank c = false) : trim t = t :=
  trim_of_tight ⟨fun c hc => h c (List.mem_of_mem_head? hc), fun c hc =>
    h c (List.mem_of_mem_getLast? hc)⟩

lemma tight_trim (t : Text) : Tight (trim t) := by
  rw [trim_eq_rdropWhile]
  refine ⟨fun c hc => ?_, fun c hc => ?_⟩
  · have hp := List.rdropWhile_prefix isBlank (t.dropWhile isBlank)
    have hd := List.head?_dropWhile_not isBlank t
    obtain ⟨u, hu⟩ := List.head?_eq_some_iff.mp hc
    obtain ⟨v, hv⟩ := hp
    rw [← hv, hu] at hd
    simpa using hd
  · obtain ⟨u, hu⟩ := List.getLast?_eq_some_iff.mp hc
    have hne : (t.dropWhile isBlank).rdropWhile isBlank ≠ [] := by simp [hu]
    have hl := List.rdropWhile_last_not _ _ hne
    simpa [hu] using hl

lemma head?_trim (h : ∀ c ∈ t.head?, isBlank c = false) : (trim t).head? = t.head? := by
  cases t with
  | nil => rfl
  | cons c t =>
    have hc : ¬ isBlank c = true := by simp [h c rfl]
    rw [trim_eq_rdropWhile, List.dropWhile_cons_of_neg hc]
    obtain ⟨u, hu⟩ := List.rdropWhile_prefix isBlank (c :: t)
    cases hr : (c :: t).rdropWhile isBlank with
    | nil => exact absurd (List.rdropWhile_eq_nil_iff.mp hr c List.mem_cons_self) hc
    | cons d v =>
      rw [hr] at hu
      exact congrArg some (List.cons.inj hu).1

lemma tight_of_trim (h : trim t = t) : Tight t := h ▸ tight_trim t

lemma trim_trim (t : Text) : trim (trim t) = trim t := trim_of_tight (tight_trim t)

lemma trim_blank_append (hb : blank b = true) (t : Text) : trim (b ++ t) = trim t := by
  rw [trim, trim, List.dropWhile_append_of_pos (by simpa [blank] using hb)]

lemma trim_append_blank (t : Text) (hb : blank b = true) : trim (t ++ b) = trim t := by
  have hr : blank b.reverse = true := by simpa [blank] using hb
  rw [trim, trim, List.dropWhile_append]
  split
  · rename_i he
    have ht : t.dropWhile isBlank = [] := by simpa using he
    rw [ht, dropWhile_of_all hb]
  · rw [List.reverse_append, List.dropWhile_append_of_pos (by simpa [blank] using hr)]

lemma trim_eq_nil_iff : trim t = [] ↔ blank t = true := by
  refine ⟨fun h => ?_, trim_of_blank⟩
  rw [trim_eq_rdropWhile, List.rdropWhile_eq_nil_iff] at h
  rw [blank, ← List.takeWhile_append_dropWhile (p := isBlank) (l := t), List.all_append]
  simpa using h

lemma blank_trim (t : Text) : blank (trim t) = blank t := by
  rw [Bool.eq_iff_iff, ← trim_eq_nil_iff, ← trim_eq_nil_iff, trim_trim]

lemma tight_append (ht : ∀ c ∈ t.head?, isBlank c = false)
    (hb : ∀ c ∈ b.getLast?, isBlank c = false) (ht' : t ≠ []) (hb' : b ≠ []) : Tight (t ++ b) := by
  refine ⟨fun c hc => ht c ?_, fun c hc => hb c ?_⟩
  · rwa [List.head?_append_of_ne_nil _ ht'] at hc
  · rwa [List.getLast?_append_of_ne_nil _ hb'] at hc

end PropertyFile.Text
