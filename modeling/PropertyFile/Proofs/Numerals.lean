import PropertyFile.Proofs.Defaults
import PropertyFile.Proofs.Digits

/-! Which texts are read as integers, and as which. -/

namespace PropertyFile

open Text (IsDigit digits? digits?_eq_some_iff number number_eq signed isBlank)

namespace Width

variable {w w' : Width} {n : ℤ}

def Fits (w : Width) (n : ℤ) : Prop := -2 ^ (w.bits - 1) ≤ n ∧ n ≤ 2 ^ (w.bits - 1) - 1

instance : Decidable (w.Fits n) := inferInstanceAs (Decidable (_ ∧ _))

lemma fits_iff : w.Fits n ↔ w.least ≤ n ∧ n ≤ w.greatest := by
  simp [least, greatest, Fits]

lemma Fits.wider (hw : w.bits ≤ w'.bits) (h : w.Fits n) : w'.Fits n := by
  have hpow : (2 : ℤ) ^ (w.bits - 1) ≤ 2 ^ (w'.bits - 1) :=
    pow_le_pow_right₀ (by decide) (by omega)
  obtain ⟨hlow, hhigh⟩ := h
  exact ⟨by omega, by omega⟩

end Width

namespace Conversion

inductive Sign : Text → ℤ → Prop
  | none : Sign [] 1
  | plus : Sign [.char '+'] 1
  | minus : Sign [.char '-'] (-1)

structure Digits (t : Text) (ds : List ℕ) : Prop where
  written : List.Forall₂ IsDigit t ds
  some : t ≠ []
  few : t.length ≤ digitLimit

inductive Numeral : Text → ℤ → Prop
  | mk {sign t : Text} {σ : ℤ} {ds : List ℕ} : Sign sign σ → Digits t ds →
    Numeral (sign ++ t) (σ * (Nat.ofDigits 10 ds.reverse : ℕ))

variable {sign zeros t u : Text} {σ n m : ℤ} {ds : List ℕ} {c : CodePoint} {w : Width}

section Reading

lemma Digits.exists_isDigit (h : Digits t ds) (hc : c ∈ t) : ∃ d, IsDigit c d := by
  obtain ⟨d, -, hd⟩ := Traversal.exists_of_mem_left h.written hc
  exact ⟨d, hd⟩

lemma exists_sign (t : Text) : ∃ sign σ, Sign sign σ ∧ t = sign ++ (signed t).2 ∧
    ∀ k, withSign (signed t).1 k = σ * k := by
  unfold signed
  split
  · exact ⟨_, _, .minus, rfl, fun k => by simp [withSign]⟩
  · exact ⟨_, _, .plus, rfl, fun k => by simp [withSign]⟩
  · exact ⟨_, _, .none, rfl, fun k => by simp [withSign]⟩

lemma signed_append (hs : Sign sign σ) (h : Digits t ds) : (signed (sign ++ t)).2 = t ∧
    ∀ k, withSign (signed (sign ++ t)).1 k = σ * k := by
  cases hs with
  | plus => exact ⟨rfl, fun k => by simp [signed, withSign]⟩
  | minus => exact ⟨rfl, fun k => by simp [signed, withSign]⟩
  | none =>
    -- The first character is a digit, and a sign is none.
    have hfirst {x : CodePoint} (hx : Text.digit? x = none) (u : Text) : t ≠ x :: u := by
      rintro rfl
      obtain ⟨d, hd⟩ := h.exists_isDigit List.mem_cons_self
      exact hd.ne hx rfl
    have hsigned : signed t = (false, t) := by
      unfold signed
      split
      · exact absurd rfl (hfirst (by decide) _)
      · exact absurd rfl (hfirst (by decide) _)
      · rfl
    simp [hsigned, withSign]

theorem decimal?_eq_some_iff : decimal? t = some n ↔ Numeral t n := by
  constructor
  · intro h
    obtain ⟨sign, σ, hs, ht, hσ⟩ := exists_sign t
    rw [decimal?] at h
    split at h
    · rename_i d ds hds
      split at h
      · rename_i hfew
        have hwritten := digits?_eq_some_iff.mp hds
        have hlength := hwritten.length_eq
        have hdigits : Digits (signed t).2 (d :: ds) :=
          ⟨hwritten, fun hnil => by simp [hnil] at hlength, by omega⟩
        obtain rfl := Option.some.inj h
        rw [hσ, number_eq]
        exact ht.symm ▸ .mk hs hdigits
      · cases h
    · cases h
  · intro h
    cases h with
    | @mk sign t σ ds hs hd =>
      obtain ⟨ht, hσ⟩ := signed_append hs hd
      have hread := digits?_eq_some_iff.mpr hd.written
      have hlength := hd.written.length_eq
      rw [decimal?, ht, hread]
      cases ds with
      | nil => exact absurd (List.length_eq_zero_iff.mp hlength) hd.some
      | cons d ds => simp only [← hlength, hd.few, if_true, hσ, number_eq]

lemma Numeral.unique (h : Numeral t n) (h' : Numeral t m) : n = m :=
  Option.some.inj ((decimal?_eq_some_iff.mpr h).symm.trans (decimal?_eq_some_iff.mpr h'))

lemma Numeral.plain (h : Numeral t n) :
    t ≠ [] ∧ (∀ c ∈ t, isBlank c = false) ∧ .char '_' ∉ t := by
  obtain @⟨sign, t, σ, ds, hs, hd⟩ := h
  have hsign : ∀ c ∈ sign, isBlank c = false ∧ c ≠ .char '_' := by
    cases hs <;> decide
  have hdigits : ∀ c ∈ t, isBlank c = false ∧ c ≠ .char '_' := by
    intro c hc
    obtain ⟨d, hd⟩ := hd.exists_isDigit hc
    exact ⟨hd.not_blank, hd.ne (by decide)⟩
  have hall := List.forall_mem_append.mpr ⟨hsign, hdigits⟩
  exact ⟨List.append_ne_nil_of_right_ne_nil _ hd.some, fun c hc => (hall c hc).1,
    fun hc => (hall _ hc).2 rfl⟩

theorem integer_eq_ok_iff : integer t = .ok n ↔ Numeral t n := by
  rw [← decimal?_eq_some_iff, integer]
  constructor
  · intro h
    split at h
    · cases h
    · split at h
      · rename_i m hm
        rw [hm, Except.ok.inj h]
      · cases h
  · intro h
    obtain ⟨hne, hblank, hplain⟩ := (decimal?_eq_some_iff.mp h).plain
    have htrim : Text.trimmed t = true := by simpa [Text.trimmed] using Text.trim_of_no_blank hblank
    have hlook : (t.isEmpty || !Text.trimmed t || t.contains (.char '_')) = false := by
      simp [hne, htrim, hplain]
    rw [hlook, if_neg Bool.false_ne_true, h]

theorem bounded_eq_ok_iff : bounded w t = .ok n ↔ Numeral t n ∧ w.Fits n := by
  rw [bounded, ← integer_eq_ok_iff, Width.fits_iff]
  cases hi : integer t with
  | error e => simp
  | ok m =>
    by_cases hm : w.least ≤ m ∧ m ≤ w.greatest
    · simp only [hm, and_self, if_true, Except.ok.injEq]
      constructor
      · rintro rfl
        exact ⟨rfl, hm⟩
      · exact fun h => h.1
    · simp only [hm, if_false, reduceCtorEq, Except.ok.injEq, false_iff]
      rintro ⟨rfl, hfits⟩
      exact hm hfits

end Reading

section Writing

lemma exists_digits {k : ℕ} (h : (Nat.digits 10 k).length ≤ digitLimit) :
    ∃ ds, Digits (Text.ofNat k) ds ∧ Nat.ofDigits 10 ds.reverse = k := by
  obtain ⟨ds, hds, hvalue⟩ := Text.digits_ofNat k
  have hne : Text.ofNat k ≠ [] := by simp [Text.ofNat, Text.ofChars, Nat.toDigits_ne_nil]
  exact ⟨ds, ⟨hds, hne, (Text.length_ofNat_le_iff (by decide)).mpr h⟩, hvalue⟩

lemma numeral_ofInt (h : (Nat.digits 10 n.natAbs).length ≤ digitLimit) :
    Numeral (Text.ofInt n) n := by
  obtain ⟨ds, hds, hvalue⟩ := exists_digits h
  cases n with
  | ofNat k =>
    have hread := Numeral.mk .none hds
    rwa [hvalue, one_mul] at hread
  | negSucc k =>
    have hread := Numeral.mk .minus hds
    have hsign : -1 * ((Int.negSucc k).natAbs : ℤ) = Int.negSucc k := by omega
    rwa [hvalue, hsign] at hread

lemma Digits.padded (h : Digits t ds) (hz : ∀ c ∈ zeros, IsDigit c 0)
    (hfew : (zeros ++ t).length ≤ digitLimit) :
    Digits (zeros ++ t) (List.replicate zeros.length 0 ++ ds) := by
  have hzeros : List.Forall₂ IsDigit zeros (List.replicate zeros.length 0) := by
    clear hfew
    induction zeros with
    | nil => exact .nil
    | cons c zeros ih =>
      obtain ⟨hc, hz⟩ := List.forall_mem_cons.mp hz
      exact .cons hc (ih hz)
  exact ⟨List.rel_append hzeros h.written, List.append_ne_nil_of_right_ne_nil _ h.some, hfew⟩

lemma Numeral.congr (h : Numeral t m) (h' : Numeral u m) : Numeral t n ↔ Numeral u n := by
  constructor
  · exact fun hn => hn.unique h ▸ h'
  · exact fun hn => hn.unique h' ▸ h

lemma numeral_padded_iff (hs : Sign sign σ) (hz : ∀ c ∈ zeros, IsDigit c 0) (h : Digits t ds)
    (hfew : (zeros ++ t).length ≤ digitLimit) :
    Numeral (sign ++ (zeros ++ t)) n ↔ Numeral (sign ++ t) n := by
  have hpadded := Numeral.mk hs (h.padded hz hfew)
  rw [List.reverse_append, List.reverse_replicate, Nat.ofDigits_append_replicate_zero] at hpadded
  exact hpadded.congr (.mk hs h)

lemma numeral_plus_iff (h : Digits t ds) : Numeral (.char '+' :: t) n ↔ Numeral t n :=
  (Numeral.mk .plus h).congr (.mk .none h)

end Writing

end Conversion

namespace Store

open Conversion (Digits Numeral Sign)

variable {α : Type} {s : Store} {key : KeyRef} {d : Descriptor} {v t expected : Text} {n : ℤ}
  {w : Width}

lemma getAs_of_get (hd : s.registry.require key = .ok d) (hv : s.get key = .ok v)
    (read : Text → Except Conversion.Fault α) :
    s.getAs key expected read = converted d.name v expected (read v) := by
  simp [getAs, hd, hv, bind, Except.bind]

lemma get_put (hd : s.registry.require key = .ok d) (ht : t ≠ []) :
    (s.put d.name t).store.get key = .ok t := by
  have hd' : (s.put d.name t).store.registry.require key = .ok d := hd
  have hfind : (s.put d.name t).store.values.find? d.name = some t := by
    simp [put, Index.find?_put]
  rw [get_of_require hd', hfind]
  exact if_neg ht

lemma getInteger_eq_ok_iff (hd : s.registry.require key = .ok d) (hv : s.get key = .ok v) :
    s.getInteger w key = .ok n ↔ Numeral v n ∧ w.Fits n := by
  rw [getInteger, getAs_of_get hd hv, ← Conversion.bounded_eq_ok_iff]
  cases Conversion.bounded w v <;> simp [converted, Except.mapError]

lemma getInteger_eq_error (hd : s.registry.require key = .ok d) (hv : s.get key = .ok v)
    (h : ∀ n, Numeral v n → ¬ w.Fits n) :
    s.getInteger w key = .error (ConfigError.invalidValue d.name v w.name) := by
  rw [getInteger, getAs_of_get hd hv]
  cases hb : Conversion.bounded w v with
  | error e => rfl
  | ok n =>
    obtain ⟨hn, hfits⟩ := Conversion.bounded_eq_ok_iff.mp hb
    exact absurd hfits (h n hn)

lemma getInteger_put_iff (hd : s.registry.require key = .ok d) (ht : t ≠ []) :
    (s.put d.name t).store.getInteger w key = .ok n ↔ Numeral t n ∧ w.Fits n :=
  getInteger_eq_ok_iff (s := (s.put d.name t).store) hd (get_put hd ht)

theorem getInteger_numeral (s : Store) (key : KeyRef) (d : Descriptor)
    (hd : s.registry.require key = .ok d) :
    let stored (t : Text) : Store := (s.put d.name t).store
    (∀ v, s.get key = .ok v → ∀ w : Width,
      (∀ n, s.getInteger w key = .ok n ↔ Numeral v n ∧ w.Fits n) ∧
      ((∀ n, Numeral v n → ¬ w.Fits n) →
        s.getInteger w key = .error (ConfigError.invalidValue d.name v w.name))) ∧
    (∀ (w : Width) (n : ℤ), (Nat.digits 10 n.natAbs).length ≤ digitLimit →
      (w.Fits n → (stored (Text.ofInt n)).getInteger w key = .ok n) ∧
      (¬ w.Fits n → (stored (Text.ofInt n)).getInteger w key =
        .error (ConfigError.invalidValue d.name (Text.ofInt n) w.name))) ∧
    (∀ sign σ zeros t ds, Sign sign σ → Digits t ds → (∀ c ∈ zeros, IsDigit c 0) →
      (zeros ++ t).length ≤ digitLimit → ∀ (w : Width) (n : ℤ),
      ((stored (sign ++ (zeros ++ t))).getInteger w key = .ok n ↔
        (stored (sign ++ t)).getInteger w key = .ok n)) ∧
    (∀ t ds, Digits t ds → ∀ (w : Width) (n : ℤ),
      ((stored (.char '+' :: t)).getInteger w key = .ok n ↔
        (stored t).getInteger w key = .ok n)) ∧
    ∀ (w w' : Width) (n : ℤ), w.bits ≤ w'.bits → s.getInteger w key = .ok n →
      s.getInteger w' key = .ok n := by
  intro stored
  refine ⟨fun v hv w => ⟨fun n => getInteger_eq_ok_iff hd hv, getInteger_eq_error hd hv⟩,
    fun w n hn => ?_, fun sign σ zeros t ds hs h hz hfew w n => ?_, fun t ds h w n => ?_,
    fun w w' n hw hn => ?_⟩
  · have hnumeral := Conversion.numeral_ofInt hn
    have hget := get_put (s := s) hd hnumeral.plain.1
    refine ⟨fun hfits => ?_, fun hfits => ?_⟩
    · exact (getInteger_put_iff hd hnumeral.plain.1).mpr ⟨hnumeral, hfits⟩
    · refine getInteger_eq_error (s := stored (Text.ofInt n)) hd hget fun m hm => ?_
      rwa [hm.unique hnumeral]
  · have hne : sign ++ t ≠ [] := List.append_ne_nil_of_right_ne_nil _ h.some
    have hne' : sign ++ (zeros ++ t) ≠ [] := by simp [h.some]
    rw [getInteger_put_iff hd hne', getInteger_put_iff hd hne,
      Conversion.numeral_padded_iff hs hz h hfew]
  · rw [getInteger_put_iff hd (List.cons_ne_nil _ _), getInteger_put_iff hd h.some,
      Conversion.numeral_plus_iff h]
  · obtain ⟨v, hv, -⟩ := Traversal.bind_eq_ok_iff.mp hn
    obtain ⟨hnumeral, hfits⟩ := (getInteger_eq_ok_iff hd hv).mp hn
    exact (getInteger_eq_ok_iff hd hv).mpr ⟨hnumeral, hfits.wider hw⟩

theorem getInteger_numeral_scripts :
    let ab := Text.ofChars ['A', 'B']
    let d : Descriptor := ⟨ab, false, [], rfl⟩
    let v := Text.ofChars ['-', '0', '\uff11', '2', '\u0668']
    let s : Store := ⟨⟨[d], by simp, by decide⟩, [(ab, v)], by decide⟩
    let key : KeyRef := .name ab
    (s.registry.require key = .ok d ∧ s.get key = .ok v ∧ Numeral v (-128)) ∧
      s.getInteger .byte key = .ok (-128) ∧ s.getInteger .long key = .ok (-128) ∧
      (s.put ab (Text.ofInt 128)).store.getInteger .byte key =
        .error (ConfigError.invalidValue ab (Text.ofInt 128) "byte") := by
  intro ab d v s key
  have hd : s.registry.require key = .ok d := rfl
  have hv : s.get key = .ok v := rfl
  have hn : Numeral v (-128) := Conversion.decimal?_eq_some_iff.mp (by decide +kernel)
  have hleast : Width.byte.Fits (-128) := by decide
  have hbeyond : ¬ Width.byte.Fits 128 := by decide
  obtain ⟨hread, hstored, -, -, hwider⟩ := getInteger_numeral s key d hd
  have hbyte : s.getInteger .byte key = .ok (-128) := ((hread v hv .byte).1 _).mpr ⟨hn, hleast⟩
  have hlong : s.getInteger .long key = .ok (-128) := hwider .byte .long _ (by decide) hbyte
  have hover := (hstored .byte 128 (by decide)).2 hbeyond
  exact ⟨⟨hd, hv, hn⟩, hbyte, hlong, hover⟩

end Store

end PropertyFile
