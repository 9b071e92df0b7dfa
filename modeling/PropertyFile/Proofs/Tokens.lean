import PropertyFile.Log
import PropertyFile.Proofs.Digits
import PropertyFile.Proofs.Parts

/-! A token of a log line holds no white space, so it neither breaks its line nor ends within it. -/

namespace PropertyFile

namespace Text

variable {c : CodePoint} {t : Text} {ls : List Text}

def unlines (ls : List Text) : Text := ls.flatMap (· ++ "\n")

lemma lines_unlines (h : ∀ l ∈ ls, Unbroken l) : lines isBreak (unlines ls) = ls := by
  induction ls with
  | nil => rfl
  | cons l ls ih =>
    obtain ⟨hl, hls⟩ := List.forall_mem_cons.mp h
    have hsplit : unlines (l :: ls) = l ++ .char '\n' :: unlines ls := by
      simp [unlines, ofString, ofChars]
    rw [hsplit, lines_append_newline hl, ih hls]

lemma isBlank_of_isBreak (h : isBreak c = true) : isBlank c = true := by
  obtain ⟨r, hr, hlow, hhigh⟩ := exists_of_within h
  simp only [List.mem_cons, List.not_mem_nil, or_false] at hr
  simp only [isBlank, blanks, within]
  rcases hr with rfl | rfl | rfl | rfl <;> grind

lemma isAlphanumeric_of_isDigit (h : c.isDigit = true) : isAlphanumeric c = true := by
  cases c with
  | half => cases h
  | char d =>
    obtain ⟨hlow, hhigh⟩ : 0x30 ≤ (CodePoint.char d).toNat ∧ (CodePoint.char d).toNat ≤ 0x39 := by
      simpa [CodePoint.isDigit, CodePoint.isWithin, Char.le_def, UInt32.le_iff_toNat_le,
        CodePoint.toNat] using h
    rw [isAlphanumeric, alphanumerics, within, if_neg (Nat.not_lt.mpr hlow), if_pos hhigh]

lemma unbroken_of_not_blank (h : ∀ c ∈ t, isBlank c = false) : Unbroken t := by
  intro c hc
  by_contra hb
  have hblank := isBlank_of_isBreak (by simpa using hb)
  rw [h c hc] at hblank
  cases hblank

end Text

namespace Log

variable {c : CodePoint} {t : Text}

lemma not_blank_of_isTokenChar (h : isTokenChar c = true) : Text.isBlank c = false := by
  rcases Bool.or_eq_true_iff.mp h with h | h
  · have hapart : ∀ r ∈ Text.alphanumerics, ∀ o ∈ Text.blanks, r.2 < o.1 ∨ o.2 < r.1 := by
      decide +kernel
    obtain ⟨r, hr, hlow, hhigh⟩ := Text.exists_of_within h
    refine Text.not_within_of_apart fun o ho => ?_
    have := hapart r hr o ho
    omega
  · have hall : ∀ c ∈ ("-_.:/" : Text), Text.isBlank c = false := by decide
    exact hall c (List.contains_iff_mem.mp h)

lemma isTokenChar_of_mem_token (h : c ∈ token t) : isTokenChar c = true := by
  have hnone : ∀ c ∈ ("none" : Text), isTokenChar c = true := by decide
  simp only [token] at h
  split at h
  · exact hnone c h
  · obtain ⟨d, -, rfl⟩ := List.mem_map.mp h
    split
    · assumption
    · rfl

lemma unbroken_of_tokens (h : ∀ c ∈ t, isTokenChar c = true) : Text.Unbroken t :=
  Text.unbroken_of_not_blank fun c hc => not_blank_of_isTokenChar (h c hc)

lemma token_of_tokens (h : ∀ c ∈ t, isTokenChar c = true) (hne : t ≠ []) : token t = t := by
  have hblank : ∀ c ∈ t, Text.isBlank c = false := fun c hc => not_blank_of_isTokenChar (h c hc)
  have htrim : Text.trim t = t := Text.trim_of_no_blank hblank
  have hmap : t.map (fun c => if isTokenChar c then c else '_') = t := by
    conv_rhs => rw [← List.map_id t]
    exact List.map_congr_left fun c hc => if_pos (h c hc)
  simp only [token, htrim, hmap]
  rw [if_neg (by simpa using hne)]

lemma isTokenChar_of_mem_ofNat {n : ℕ} (h : c ∈ Text.ofNat n) : isTokenChar c = true := by
  rw [isTokenChar, Text.isAlphanumeric_of_isDigit (Text.isDigit_of_mem_ofNat h), Bool.true_or]

lemma token_ofNat (n : ℕ) : token (Text.ofNat n) = Text.ofNat n :=
  token_of_tokens (fun _ => isTokenChar_of_mem_ofNat) (by simp [Text.ofNat, Text.ofChars])

lemma token_kind (c : ConfigError) : token c.kind = c.kind := by
  cases c <;> rfl

lemma context_singleton (key value : Text) :
    context [(key, value)] = " " ++ key ++ "=" ++ token value := by
  simp [context, Text.sortBy, Text.insertBy]

end Log

end PropertyFile
