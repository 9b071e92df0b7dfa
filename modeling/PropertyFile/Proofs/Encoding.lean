import Mathlib.Tactic
import PropertyFile.Text.Utf8

/-! What is written as UTF-8 is read back. -/

namespace PropertyFile.Utf8

variable {position b n : ℕ} {bytes : List UInt8} {s : Begun}

lemma ofNat_toNat (c : Char) : CodePoint.ofNat c.toNat = .char c := by
  have hvalid : c.toNat.isValidChar := c.valid
  apply CodePoint.toNat_injective
  apply CodePoint.toNat_ofNat
  unfold Nat.isValidChar at hvalid
  omega

lemma toNat_byte (h : b < 256) : (UInt8.ofNat b).toNat = b := UInt8.toNat_ofNat_of_lt h

lemma decodeFrom_ascii (h : b < 0x80) : decodeFrom position none (UInt8.ofNat b :: bytes) =
    (decodeFrom (position + 1) none bytes).map (.ofNat b :: ·) := by
  rw [decodeFrom, toNat_byte (by omega), if_pos h]

lemma decodeFrom_first (hb : b < 256) (h : 0x80 ≤ b) (hs : begin? position b = some s) :
    decodeFrom position none (UInt8.ofNat b :: bytes) =
      decodeFrom (position + 1) (some s) bytes := by
  rw [decodeFrom, toNat_byte hb, if_neg (by omega), hs]

def continuation (n : ℕ) : UInt8 := UInt8.ofNat (n % 64 + 128)

lemma toNat_continuation (n : ℕ) : (continuation n).toNat = n % 64 + 128 := by
  apply toNat_byte
  omega

lemma decodeFrom_more {start first due low high : ℕ} (hlow : low ≤ n % 64 + 128)
    (hhigh : n % 64 + 128 ≤ high) :
    decodeFrom position (some ⟨start, first, n / 64, due + 2, low, high⟩)
        (continuation n :: bytes) =
      decodeFrom (position + 1) (some ⟨start, first, n, due + 1, 0x80, 0xBF⟩) bytes := by
  have hn : n / 64 * 64 + (n % 64 + 128 - 0x80) = n := by omega
  rw [decodeFrom, toNat_continuation, if_pos ⟨hlow, hhigh⟩]
  simp only [hn]
  exact if_neg (by omega)

lemma decodeFrom_last {start first : ℕ} :
    decodeFrom position (some ⟨start, first, n / 64, 1, 0x80, 0xBF⟩) (continuation n :: bytes) =
      (decodeFrom (position + 1) none bytes).map (.ofNat n :: ·) := by
  have hn : n / 64 * 64 + (n % 64 + 128 - 0x80) = n := by omega
  have hrange : 0x80 ≤ n % 64 + 128 ∧ n % 64 + 128 ≤ 0xBF := by omega
  rw [decodeFrom, toNat_continuation, if_pos hrange]
  simp only [hn]
  exact if_pos le_rfl

lemma decodeFrom_two (h : 0x80 ≤ n) (h' : n < 0x800) :
    decodeFrom position none (UInt8.ofNat (n / 64 % 32 + 192) :: continuation n :: bytes) =
      (decodeFrom (position + 2) none bytes).map (.ofNat n :: ·) := by
  have hbegin : begin? position (n / 64 % 32 + 192) =
      some ⟨position, n / 64 % 32 + 192, n / 64, 1, 0x80, 0xBF⟩ := by
    have hcode : n / 64 % 32 + 192 - 0xC0 = n / 64 := by omega
    simp only [begin?, hcode]
    exact if_pos (by omega)
  rw [decodeFrom_first (by omega) (by omega) hbegin, decodeFrom_last]

lemma decodeFrom_three (h : 0x800 ≤ n) (h' : n < 0x10000) (hhalf : n < 0xD800 ∨ 0xE000 ≤ n) :
    decodeFrom position none
        (UInt8.ofNat (n / 4096 % 16 + 224) :: continuation (n / 64) :: continuation n :: bytes) =
      (decodeFrom (position + 3) none bytes).map (.ofNat n :: ·) := by
  have hbegin : begin? position (n / 4096 % 16 + 224) =
      some ⟨position, n / 4096 % 16 + 224, n / 64 / 64, 2,
        if n / 4096 % 16 + 224 = 0xE0 then 0xA0 else 0x80,
        if n / 4096 % 16 + 224 = 0xED then 0x9F else 0xBF⟩ := by
    have hcode : n / 4096 % 16 + 224 - 0xE0 = n / 64 / 64 := by omega
    simp only [begin?, hcode]
    rw [if_neg (by omega)]
    exact if_pos (by omega)
  rw [decodeFrom_first (by omega) (by omega) hbegin, decodeFrom_more, decodeFrom_last]
  -- below are the numbers that two bytes can write, above the halves of surrogate pairs
  · split <;> omega
  · split <;> omega

lemma decodeFrom_four (h : 0x10000 ≤ n) (h' : n < 0x110000) :
    decodeFrom position none (UInt8.ofNat (n / 262144 % 8 + 240) :: continuation (n / 4096) ::
        continuation (n / 64) :: continuation n :: bytes) =
      (decodeFrom (position + 4) none bytes).map (.ofNat n :: ·) := by
  have hbegin : begin? position (n / 262144 % 8 + 240) =
      some ⟨position, n / 262144 % 8 + 240, n / 4096 / 64, 3,
        if n / 262144 % 8 + 240 = 0xF0 then 0x90 else 0x80,
        if n / 262144 % 8 + 240 = 0xF4 then 0x8F else 0xBF⟩ := by
    have hcode : n / 262144 % 8 + 240 - 0xF0 = n / 4096 / 64 := by omega
    simp only [begin?, hcode]
    rw [if_neg (by omega), if_neg (by omega)]
    exact if_pos (by omega)
  have hsplit : n / 4096 = n / 64 / 64 := by omega
  rw [decodeFrom_first (by omega) (by omega) hbegin, decodeFrom_more, hsplit,
    decodeFrom_more (by omega) (by omega), decodeFrom_last]
  -- below are the numbers that three bytes can write, above there are no code points
  · split <;> omega
  · split <;> omega

theorem decodeFrom_char (position : ℕ) (c : Char) (bytes : List UInt8) :
    decodeFrom position none (String.utf8EncodeChar c ++ bytes) =
      (decodeFrom (position + (String.utf8EncodeChar c).length) none bytes).map (.char c :: ·) := by
  have hvalid : c.toNat.isValidChar := c.valid
  unfold Nat.isValidChar at hvalid
  have hval : c.val.toNat = c.toNat := rfl
  rw [← ofNat_toNat, String.utf8EncodeChar]
  simp only [hval]
  split
  · exact decodeFrom_ascii (by omega)
  · split
    · exact decodeFrom_two (by omega) (by omega)
    · split
      · exact decodeFrom_three (by omega) (by omega) (by omega)
      · exact decodeFrom_four (by omega) (by omega)

theorem decode_encode (t : Text) (h : ∀ c ∈ t, c.isHalf = false) : decode (encode t) = .ok t := by
  have hfrom (position : ℕ) : decodeFrom position none (encode t) = .ok t := by
    induction t generalizing position with
    | nil => rfl
    | cons c t ih =>
      obtain ⟨hc, ht⟩ := List.forall_mem_cons.mp h
      cases c with
      | half k => cases hc
      | char c =>
        have hencode : encode (.char c :: t) = String.utf8EncodeChar c ++ encode t := rfl
        rw [hencode, decodeFrom_char, ih ht]
        rfl
  exact hfrom 0

end PropertyFile.Utf8
