import Mathlib.Data.Nat.Digits.Lemmas
import PropertyFile.Proofs.Trimming
import PropertyFile.Text.Digit

/-! Decimal digits of any script and the numbers they write. -/

namespace PropertyFile.Text

variable {c : CodePoint} {d : ℕ} {t : Text} {ds : List ℕ}

def IsDigit (c : CodePoint) (d : ℕ) : Prop := ∃ z ∈ zeros, c.toNat = z + d ∧ d < 10

lemma zeros_apart : ∀ z ∈ zeros, ∀ y ∈ zeros, z = y ∨ z + 10 ≤ y ∨ y + 10 ≤ z := by
  decide +kernel

lemma digit?_eq_some_iff : digit? c = some d ↔ IsDigit c d := by
  constructor
  · intro h
    obtain ⟨z, hz, rfl⟩ := Option.map_eq_some_iff.mp h
    have hrange := List.find?_some hz
    simp only [Bool.and_eq_true, decide_eq_true_eq] at hrange
    exact ⟨z, List.mem_of_find?_eq_some hz, by omega, by omega⟩
  · rintro ⟨z, hz, hc, hd⟩
    cases hf : zeros.find? fun z => decide (z ≤ c.toNat) && decide (c.toNat < z + 10) with
    | none =>
      have hout := List.find?_eq_none.mp hf z hz
      simp only [Bool.and_eq_true, decide_eq_true_eq] at hout
      omega
    | some y =>
      have hrange := List.find?_some hf
      simp only [Bool.and_eq_true, decide_eq_true_eq] at hrange
      have happart := zeros_apart z hz y (List.mem_of_find?_eq_some hf)
      rw [digit?, hf, Option.map_some]
      exact congrArg some (by omega)

lemma digits?_eq_some_iff : digits? t = some ds ↔ List.Forall₂ IsDigit t ds := by
  induction t generalizing ds with
  | nil => simp [digits?, eq_comm]
  | cons c t ih =>
    rw [digits?, List.forall₂_cons_left_iff]
    constructor
    · intro h
      split at h
      · rename_i d es hd hes
        exact ⟨d, es, digit?_eq_some_iff.mp hd, ih.mp hes, (Option.some.inj h).symm⟩
      · cases h
    · rintro ⟨d, es, hd, hes, rfl⟩
      rw [digit?_eq_some_iff.mpr hd, ih.mpr hes]

lemma number_eq (ds : List ℕ) : number ds = Nat.ofDigits 10 ds.reverse := by
  induction ds using List.reverseRecOn with
  | nil => rfl
  | append_singleton ds d ih =>
    have hlast : number (ds ++ [d]) = number ds * 10 + d := by simp [number]
    rw [hlast, ih, List.reverse_append, List.reverse_singleton, List.singleton_append,
      Nat.ofDigits_cons]
    omega

lemma IsDigit.not_blank (h : IsDigit c d) : isBlank c = false := by
  have hapart : ∀ z ∈ zeros, ∀ r ∈ blanks, z + 9 < r.1 ∨ r.2 < z := by decide +kernel
  obtain ⟨z, hz, hc, hd⟩ := h
  refine not_within_of_apart fun r hr => ?_
  have := hapart z hz r hr
  omega

lemma IsDigit.ne {x : CodePoint} (hx : digit? x = none) (h : IsDigit c d) : c ≠ x := by
  rintro rfl
  rw [digit?_eq_some_iff.mpr h] at hx
  cases hx

lemma isDigit_digitChar (h : d < 10) : IsDigit (.char d.digitChar) d := by
  have hvalue : ∀ d < 10, (CodePoint.char d.digitChar).toNat = 0x30 + d := by decide
  exact ⟨0x30, by simp [zeros], hvalue d h, h⟩

theorem digits_ofNat (n : ℕ) :
    ∃ ds, List.Forall₂ IsDigit (ofNat n) ds ∧ Nat.ofDigits 10 ds.reverse = n := by
  induction n using Nat.strong_induction_on with
  | h n ih =>
    by_cases hn : n < 10
    · refine ⟨[n], ?_, by simp⟩
      rw [ofNat, Nat.toDigits_of_lt_base hn]
      exact .cons (isDigit_digitChar hn) .nil
    · obtain ⟨ds, hds, hvalue⟩ := ih (n / 10) (by omega)
      have hwritten : ofNat n = ofNat (n / 10) ++ [.char (n % 10).digitChar] := by
        rw [ofNat, Nat.toDigits_eq_if (by decide), if_neg hn, ofNat]
        simp [ofChars]
      refine ⟨ds ++ [n % 10], ?_, ?_⟩
      · rw [hwritten]
        exact List.rel_append hds (.cons (isDigit_digitChar (Nat.mod_lt n (by decide))) .nil)
      · rw [List.reverse_append, List.reverse_singleton, List.singleton_append, Nat.ofDigits_cons,
          hvalue]
        omega

lemma isDigit_of_mem_ofNat {n : ℕ} (h : c ∈ ofNat n) : c.isDigit = true := by
  obtain ⟨x, hx, rfl⟩ := List.mem_map.mp h
  have hdigit := Nat.isDigit_of_mem_toDigits (by decide) (by decide) hx
  simpa [CodePoint.isDigit, CodePoint.isWithin, Char.isDigit, Char.le_def] using hdigit

lemma isDigit_or_eq_of_mem_ofInt {n : ℤ} (h : c ∈ ofInt n) : c.isDigit = true ∨ c = .char '-' := by
  cases n with
  | ofNat k => exact .inl (isDigit_of_mem_ofNat h)
  | negSucc k =>
    rcases List.mem_cons.mp h with rfl | h
    · exact .inr rfl
    · exact .inl (isDigit_of_mem_ofNat h)

lemma length_ofNat_le_iff {n k : ℕ} (hk : 0 < k) :
    (ofNat n).length ≤ k ↔ (Nat.digits 10 n).length ≤ k := by
  rw [ofNat, ofChars, List.length_map, Nat.length_toDigits_le_iff (by decide) hk,
    Nat.digits_length_le_iff (by decide)]

end PropertyFile.Text
