import Mathlib.Tactic
import PropertyFile.Reference

/-! Looking for any name and looking for one given name meet the same spellings. -/

namespace PropertyFile.Reference

open Text (isBlank blank)

def bare (name : Text) : Text := '$' :: name

def braced (name a b : Text) : Text := '$' :: '{' :: (a ++ (name ++ (b ++ [.char '}'])))

inductive Spells (name : Text) : Text → Prop
  | bare : Spells name (bare name)
  | braced {a b : Text} : blank a = true → blank b = true → Spells name (braced name a b)

def Ends (rest : Text) : Prop := ∀ c ∈ rest.head?, isNameChar c = false

def Opens (name spelling rest : Text) : Prop :=
  Spells name spelling ∧ (spelling = bare name → Ends rest)

section Characters

variable {c : CodePoint}

lemma isNameChar_toNat (h : isNameChar c = true) :
    c.toNat = 46 ∨ (48 ≤ c.toNat ∧ c.toNat ≤ 57) ∨ (65 ≤ c.toNat ∧ c.toNat ≤ 90) ∨
      c.toNat = 95 ∨ (97 ≤ c.toNat ∧ c.toNat ≤ 122) := by
  cases c with
  | half k =>
    simp [isNameChar, isInitial, CodePoint.isAlpha, CodePoint.isDigit, CodePoint.isWithin] at h
  | char c =>
    simp [isNameChar, isInitial, CodePoint.isAlpha, CodePoint.isDigit, CodePoint.isWithin,
      Char.le_def, UInt32.le_iff_toNat_le] at h
    simp only [CodePoint.toNat, Char.toNat]
    rcases h with (((h | h) | rfl) | rfl) | h <;> simp <;> omega

lemma not_blank_of_isNameChar (h : isNameChar c = true) : isBlank c = false := by
  have hc := isNameChar_toNat h
  simp [isBlank, Text.blanks, Text.within]
  omega

lemma not_isNameChar_of_blank (h : isBlank c = true) : isNameChar c = false := by
  by_contra hc
  simp [not_blank_of_isNameChar (by simpa using hc)] at h

lemma isNameChar_of_isInitial (h : isInitial c = true) : isNameChar c = true := by
  simp [isNameChar, h]

end Characters

section Names

variable {name t rest : Text}

lemma eq_cons_of_isName (h : isName name = true) : ∃ c d s, name = c :: d :: s := by
  rcases name with - | ⟨c, - | ⟨d, s⟩⟩
  · cases h
  · cases h
  · exact ⟨c, d, s, rfl⟩

lemma all_of_isName (h : isName name = true) : ∀ c ∈ name, isNameChar c = true := by
  obtain ⟨c, d, s, rfl⟩ := eq_cons_of_isName h
  simp only [isName, Bool.and_eq_true, List.all_eq_true] at h
  intro x hx
  rcases List.mem_cons.mp hx with rfl | hx
  · exact isNameChar_of_isInitial h.1
  · exact h.2 x hx

lemma exists_cons_of_isName (h : isName name = true) :
    ∃ c m, name = c :: m ∧ isNameChar c = true := by
  obtain ⟨c, d, s, rfl⟩ := eq_cons_of_isName h
  exact ⟨c, d :: s, rfl, all_of_isName h c (by simp)⟩

lemma ne_nil_of_isName (h : isName name = true) : name ≠ [] := by
  obtain ⟨c, m, rfl, _⟩ := exists_cons_of_isName h
  simp

lemma ends_nil : Ends [] := by simp [Ends]

lemma ends_cons {c : CodePoint} : Ends (c :: rest) ↔ isNameChar c = false := by simp [Ends]

lemma ends_of_blank {b : Text} (hb : blank b = true) : Ends (b ++ CodePoint.char '}' :: rest) := by
  cases b with
  | nil => exact ends_cons.mpr (by decide)
  | cons c b =>
    simp only [blank, List.all_cons, Bool.and_eq_true] at hb
    exact ends_cons.mpr (not_isNameChar_of_blank hb.1)

lemma takeWhile_append_of_ends (h : ∀ c ∈ name, isNameChar c = true) (he : Ends rest) :
    (name ++ rest).takeWhile isNameChar = name := by
  rw [List.takeWhile_append_of_pos h]
  cases rest with
  | nil => simp
  | cons c rest => simp [ends_cons.mp he]

lemma nameAt?_append (h : isName name = true) (he : Ends rest) :
    nameAt? (name ++ rest) = some name := by
  simp [nameAt?, takeWhile_append_of_ends (all_of_isName h) he, h]

lemma exists_of_nameAt? (h : nameAt? t = some name) :
    isName name = true ∧ ∃ rest, t = name ++ rest ∧ Ends rest := by
  simp only [nameAt?] at h
  split at h
  · rename_i hn
    obtain rfl := Option.some.inj h
    refine ⟨hn, t.dropWhile isNameChar, List.takeWhile_append_dropWhile.symm, ?_⟩
    intro c hc
    have hd := List.head?_dropWhile_not isNameChar t
    rw [Option.mem_def.mp hc] at hd
    simpa using hd
  · cases h

lemma closed?_append {b : Text} (hb : blank b = true) :
    closed? (b ++ CodePoint.char '}' :: rest) = some rest := by
  have hd : (b ++ CodePoint.char '}' :: rest).dropWhile isBlank = CodePoint.char '}' :: rest := by
    rw [List.dropWhile_append_of_pos (by simpa [blank] using hb)]
    exact List.dropWhile_cons_of_neg (by decide)
  simp [closed?, hd]

lemma exists_of_closed? (h : closed? t = some rest) :
    ∃ b, t = b ++ CodePoint.char '}' :: rest ∧ blank b = true := by
  unfold closed? at h
  split at h
  · rename_i r hr
    obtain rfl := Option.some.inj h
    refine ⟨t.takeWhile isBlank, ?_, List.all_takeWhile⟩
    rw [← hr, List.takeWhile_append_dropWhile]
  · cases h

lemma dropWhile_blank_append {a : Text} (ha : blank a = true) (h : isName name = true) :
    (a ++ (name ++ rest)).dropWhile isBlank = name ++ rest := by
  obtain ⟨c, m, rfl, hc⟩ := exists_cons_of_isName h
  rw [List.dropWhile_append_of_pos (by simpa [blank] using ha)]
  exact List.dropWhile_cons_of_neg (by simp [not_blank_of_isNameChar hc])

end Names

section Readers

variable {name spelling t rest : Text}

lemma head?_name_ne_brace (h : isName name = true) :
    ∀ u : Text, name ++ rest ≠ .char '{' :: u := by
  obtain ⟨c, m, rfl, hc⟩ := exists_cons_of_isName h
  rintro u hu
  rw [(List.cons.inj hu).1] at hc
  exact absurd hc (by decide)

lemma braced_append (name a b rest : Text) :
    braced name a b ++ rest =
      .char '$' :: .char '{' :: (a ++ (name ++ (b ++ .char '}' :: rest))) := by
  simp [braced]

lemma length_braced (name a b : Text) :
    (braced name a b).length = a.length + name.length + b.length + 3 := by
  simp [braced]
  omega

lemma opens_braced {a b : Text} (hn : isName name = true) (ha : blank a = true)
    (hb : blank b = true) : Opens name (braced name a b) rest := by
  refine ⟨.braced ha hb, fun h => ?_⟩
  have hh := (List.cons.inj h).2
  rw [← List.append_nil name] at hh
  exact absurd hh.symm (head?_name_ne_brace hn _)

lemma at?_append (hn : isName name = true) (h : Opens name spelling rest) :
    at? (spelling ++ rest) = some (name, spelling.length) := by
  obtain ⟨hs, he⟩ := h
  cases hs with
  | bare =>
    rw [bare, List.cons_append, at?]
    · simp [nameAt?_append hn (he rfl)]
    · exact head?_name_ne_brace hn
  | braced ha hb =>
    rw [braced_append, at?, dropWhile_blank_append ha hn]
    simp only [nameAt?_append hn (ends_of_blank hb), Option.bind_some, List.drop_left,
      closed?_append hb, Option.map_some, length_braced, List.length_append, List.length_cons]
    congr 2
    omega

lemma spelling?_append (hn : isName name = true) (h : Opens name spelling rest) :
    spelling? name (spelling ++ rest) = some spelling.length := by
  obtain ⟨hs, he⟩ := h
  cases hs with
  | bare =>
    have hh : rest.head?.any isNameChar = false := by
      cases hr : rest.head? with
      | none => rfl
      | some c => exact he rfl c hr
    rw [bare, List.cons_append, spelling?]
    · simp [hh]
    · exact head?_name_ne_brace hn
  | braced ha hb =>
    rw [braced_append, spelling?, dropWhile_blank_append ha hn]
    simp only [List.isPrefixOf_iff_prefix, List.prefix_append, if_true, List.drop_left,
      closed?_append hb, Option.map_some, length_braced, List.length_append, List.length_cons]
    congr 1
    omega

lemma braced_of_closed {rest' : Text} (hn : isName name = true)
    (hi : t.dropWhile isBlank = name ++ rest) (hc : closed? rest = some rest') :
    ∃ spelling, .char '$' :: .char '{' :: t = spelling ++ rest' ∧
      spelling.length = t.length + 2 - rest'.length ∧ Opens name spelling rest' := by
  obtain ⟨b, rfl, hb⟩ := exists_of_closed? hc
  have ht : t = t.takeWhile isBlank ++ (name ++ (b ++ .char '}' :: rest')) := by
    rw [← hi, List.takeWhile_append_dropWhile]
  refine ⟨braced name (t.takeWhile isBlank) b, ?_, ?_, opens_braced hn List.all_takeWhile hb⟩
  · rw [braced_append, ← ht]
  · have hl := congrArg List.length ht
    simp only [List.length_append, List.length_cons] at hl
    rw [length_braced]
    omega

lemma exists_of_at? {l : Nat} (h : at? t = some (name, l)) :
    isName name = true ∧
      ∃ spelling rest, t = spelling ++ rest ∧ spelling.length = l ∧ Opens name spelling rest := by
  unfold at? at h
  split at h
  · rename_i t
    obtain ⟨n, hn, hc⟩ := Option.bind_eq_some_iff.mp h
    obtain ⟨rest', hr, he⟩ := Option.map_eq_some_iff.mp hc
    obtain ⟨rfl, rfl⟩ := Prod.mk.inj he
    obtain ⟨hname, rest, hi, _⟩ := exists_of_nameAt? hn
    rw [hi, List.drop_left] at hr
    obtain ⟨spelling, ht, hl, ho⟩ := braced_of_closed hname hi hr
    exact ⟨hname, spelling, rest', ht, hl, ho⟩
  · obtain ⟨n, hn, he⟩ := Option.map_eq_some_iff.mp h
    obtain ⟨rfl, rfl⟩ := Prod.mk.inj he
    obtain ⟨hname, rest, rfl, hr⟩ := exists_of_nameAt? hn
    exact ⟨hname, bare n, rest, rfl, rfl, .bare, fun _ => hr⟩
  · cases h

lemma exists_of_spelling? {l : Nat} (hn : isName name = true) (h : spelling? name t = some l) :
    ∃ spelling rest, t = spelling ++ rest ∧ spelling.length = l ∧ Opens name spelling rest := by
  unfold spelling? at h
  split at h
  · rename_i t
    simp only [List.isPrefixOf_iff_prefix] at h
    split at h
    · rename_i hp
      obtain ⟨rest, hi⟩ := hp
      obtain ⟨rest', hc, rfl⟩ := Option.map_eq_some_iff.mp h
      rw [← hi, List.drop_left] at hc
      obtain ⟨spelling, ht, hl, ho⟩ := braced_of_closed hn hi.symm hc
      exact ⟨spelling, rest', ht, hl, ho⟩
    · cases h
  · split at h
    · rename_i hp
      obtain rfl := Option.some.inj h
      simp only [Bool.and_eq_true, List.isPrefixOf_iff_prefix, Bool.not_eq_true'] at hp
      obtain ⟨⟨rest, rfl⟩, hr⟩ := hp
      refine ⟨bare name, rest, rfl, rfl, .bare, fun _ c hc => ?_⟩
      rw [List.drop_left, Option.mem_def.mp hc] at hr
      exact hr
    · cases h
  · cases h

lemma spelling?_eq_some_iff {l : Nat} (hn : isName name = true) :
    spelling? name t = some l ↔ at? t = some (name, l) := by
  constructor
  · intro h
    obtain ⟨spelling, rest, rfl, rfl, ho⟩ := exists_of_spelling? hn h
    exact at?_append hn ho
  · intro h
    obtain ⟨_, spelling, rest, rfl, rfl, ho⟩ := exists_of_at? h
    exact spelling?_append hn ho

lemma spelling?_of_none (hn : isName name = true) (h : at? t = none) : spelling? name t = none := by
  rw [Option.eq_none_iff_forall_ne_some]
  intro l hl
  rw [(spelling?_eq_some_iff hn).mp hl] at h
  cases h

lemma spelling?_of_ne {other : Text} (hn : isName name = true) (ho : isName other = true)
    (hne : other ≠ name) (h : Opens other spelling rest) :
    spelling? name (spelling ++ rest) = none := by
  rw [Option.eq_none_iff_forall_ne_some]
  intro l hl
  rw [spelling?_eq_some_iff hn, at?_append ho h] at hl
  exact hne (Prod.mk.inj (Option.some.inj hl)).1

lemma at?_cons_of_ne {c : CodePoint} (h : c ≠ .char '$') : at? (c :: t) = none := by
  unfold at?
  split <;> simp_all

lemma at?_dollar_of_not_initial {c : CodePoint} (hi : isInitial c = false) (hb : c ≠ .char '{') :
    at? (.char '$' :: c :: t) = none := by
  have hn : nameAt? (c :: t) = none := by
    cases h : nameAt? (c :: t) with
    | none => rfl
    | some n =>
      obtain ⟨hn, rest, ht, _⟩ := exists_of_nameAt? h
      match n, hn with
      | d :: e :: m, hn =>
        obtain rfl := (List.cons.inj ht).1
        simp [isName, hi] at hn
  rw [at?, hn]
  · rfl
  · rintro u hu
    exact hb (List.cons.inj hu).1

lemma spelling_eq_cons (h : Spells name spelling) : ∃ inner, spelling = .char '$' :: inner := by
  cases h with
  | bare => exact ⟨name, rfl⟩
  | braced ha hb => exact ⟨_, rfl⟩

lemma not_dollar_of_blank {b : Text} (hb : blank b = true) : (.char '$' : CodePoint) ∉ b := by
  intro h
  have hc := List.all_eq_true.mp hb _ h
  exact absurd hc (by decide)

lemma not_dollar_of_isName (hn : isName name = true) : (.char '$' : CodePoint) ∉ name := by
  intro h
  exact absurd (all_of_isName hn _ h) (by decide)

lemma not_dollar_tail {inner : Text} (hn : isName name = true)
    (h : Spells name (.char '$' :: inner)) : (.char '$' : CodePoint) ∉ inner := by
  generalize hs : (.char '$' :: inner : Text) = s at h
  cases h with
  | bare =>
    rw [(List.cons.inj hs).2]
    exact not_dollar_of_isName hn
  | braced ha hb =>
    rw [(List.cons.inj hs).2]
    simp only [List.mem_cons, List.mem_append, not_or]
    exact ⟨by decide, not_dollar_of_blank ha, not_dollar_of_isName hn, not_dollar_of_blank hb,
      by decide, by simp⟩

end Readers

end PropertyFile.Reference
