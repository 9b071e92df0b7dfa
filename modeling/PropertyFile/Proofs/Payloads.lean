import Mathlib.Data.Nat.Digits.Lemmas
import Mathlib.Tactic
import PropertyFile.Payload
import PropertyFile.Proofs.Sorting
import PropertyFile.Proofs.Traversal
import PropertyFile.Proofs.Trimming

/-! What a decoded value reads as: every value has a text as long as no integer in it is too long.
-/

namespace PropertyFile.Payload

open Traversal

mutual

def Short : Payload → Prop
  | .integer i => i.natAbs < 10 ^ digitLimit
  | .list l => ShortList l
  | .mapping m => ShortPairs m
  | _ => True

def ShortList : List Payload → Prop
  | [] => True
  | p :: l => Short p ∧ ShortList l

def ShortPairs : List (Payload × Payload) → Prop
  | [] => True
  | (k, v) :: m => Short k ∧ Short v ∧ ShortPairs m

end

variable {p : Payload} {m : Mapping}

lemma integerText_of_short {i : Int} (h : i.natAbs < 10 ^ digitLimit) :
    ∃ t, integerText i = .ok t := by
  have hdigits : Double.digitCount i.natAbs ≤ digitLimit := by
    unfold Double.digitCount
    split
    · exact Nat.zero_le _
    · exact Nat.toDigits_length 10 i.natAbs digitLimit (by decide) h
  exact ⟨_, if_pos hdigits⟩

mutual

lemma inner_of_short : ∀ p : Payload, p.Short → ∃ t, inner p = .ok t
  | .null, _ => ⟨_, rfl⟩
  | .boolean _, _ => ⟨_, rfl⟩
  | .integer _, h => integerText_of_short h
  | .number _, _ => ⟨_, rfl⟩
  | .text _, _ => ⟨_, rfl⟩
  | .list l, h => by
    obtain ⟨ts, hts⟩ := inners_of_short l h
    exact ⟨_, by rw [inner, hts]; rfl⟩
  | .mapping m, h => by
    obtain ⟨ts, hts⟩ := innerPairs_of_short m h
    exact ⟨_, by rw [inner, hts]; rfl⟩

lemma inners_of_short : ∀ l : List Payload, ShortList l → ∃ ts, inners l = .ok ts
  | [], _ => ⟨_, rfl⟩
  | p :: l, h => by
    obtain ⟨t, ht⟩ := inner_of_short p h.1
    obtain ⟨ts, hts⟩ := inners_of_short l h.2
    exact ⟨_, by rw [inners, ht, hts]; rfl⟩

lemma innerPairs_of_short :
    ∀ m : List (Payload × Payload), ShortPairs m → ∃ ts, innerPairs m = .ok ts
  | [], _ => ⟨_, rfl⟩
  | (k, v) :: m, h => by
    obtain ⟨s, hs⟩ := inner_of_short k h.1
    obtain ⟨t, ht⟩ := inner_of_short v h.2.1
    obtain ⟨ts, hts⟩ := innerPairs_of_short m h.2.2
    exact ⟨_, by rw [innerPairs, hs, ht, hts]; rfl⟩

end

lemma shown_of_short (h : p.Short) : ∃ t, p.shown = .ok t := by
  unfold shown
  split
  · exact ⟨_, rfl⟩
  · exact inner_of_short p h

lemma short_of_mem {k v : Payload} (h : ShortPairs m) (hm : (k, v) ∈ m) : k.Short ∧ v.Short := by
  induction m with
  | nil => cases hm
  | cons e m ih =>
    obtain ⟨k', v'⟩ := e
    rcases List.mem_cons.mp hm with he | hm
    · obtain ⟨rfl, rfl⟩ := Prod.mk.inj he
      exact ⟨h.1, h.2.1⟩
    · exact ih h.2.2 hm

lemma sameKey_text (p : Payload) (n : Text) : p.sameKey (.text n) = true ↔ p = .text n := by
  cases p <;> simp [sameKey, whole?]

namespace Mapping

lemma mem_of_find? {n : Text} (h : m.find? n = some p) : (.text n, p) ∈ m := by
  induction m with
  | nil => cases h
  | cons e m ih =>
    obtain ⟨k, v⟩ := e
    rw [find?] at h
    split at h
    · rename_i hk
      obtain rfl := Option.some.inj h
      rw [(sameKey_text k n).mp hk]
      exact List.mem_cons_self
    · exact List.mem_cons_of_mem _ (ih h)

lemma short_of_find? {n : Text} (h : ShortPairs m) (hf : m.find? n = some p) : p.Short :=
  (short_of_mem h (mem_of_find? hf)).2

end Mapping

def Lists (ps : List Payload) (ts : List Text) : Prop :=
  ts.Pairwise (fun s t => Text.codes s ≤ Text.codes t) ∧
    ∃ us, List.Forall₂ (fun p t => p.shown = .ok t) ps us ∧ ts.Perm us

lemma Lists.eq_nil_iff {ps : List Payload} {ts : List Text} (h : Lists ps ts) :
    ts = [] ↔ ps = [] := by
  obtain ⟨-, us, hus, hp⟩ := h
  rw [← List.length_eq_zero_iff, ← List.length_eq_zero_iff, hp.length_eq, hus.length_eq]

namespace Mapping

def outside (m : Mapping) (known : List Text) : List Payload :=
  (m.map Prod.fst).filter fun
    | .text t => !known.contains t
    | _ => true

lemma others_eq (m : Mapping) (known : List Text) :
    m.others known = ((m.outside known).mapM shown).map Text.sorted := by
  have hf : (fun k : Payload => !known.any fun n => k.sameKey (.text n)) = fun
      | .text t => !known.contains t
      | _ => true := by
    funext k
    cases k <;> simp [sameKey, whole?, List.any_beq]
  rw [others, outside, hf]

lemma others_ok_iff {known ts : List Text} :
    m.others known = .ok ts ↔ Lists (m.outside known) ts := by
  rw [others_eq]
  constructor
  · intro h
    cases hu : (m.outside known).mapM shown with
    | error e =>
      rw [hu] at h
      cases h
    | ok us =>
      rw [hu] at h
      obtain rfl := Except.ok.inj h
      exact ⟨Text.pairwise_sorted us, us, mapM_eq_ok_iff.mp hu, Text.sorted_perm us⟩
  · rintro ⟨hts, us, hus, hp⟩
    rw [mapM_eq_ok_iff.mpr hus, Text.eq_sorted hp hts]
    rfl

lemma others_of_short (h : ShortPairs m) (known : List Text) : ∃ ts, m.others known = .ok ts := by
  rw [others_eq]
  cases hu : (m.outside known).mapM shown with
  | ok us => exact ⟨_, rfl⟩
  | error e =>
    obtain ⟨before, k, after, hk, -, he⟩ := mapM_eq_error_iff.mp hu
    have hmem : k ∈ m.outside known := by simp [hk]
    obtain ⟨⟨k', v⟩, hm, rfl⟩ := List.mem_map.mp (List.mem_filter.mp hmem).1
    obtain ⟨t, ht⟩ := shown_of_short (short_of_mem h hm).1
    rw [ht] at he
    cases he

end Mapping

section Words

def Names (p : Payload) (name : Text) : Prop :=
  p ≠ .null ∧ ∃ t, p.shown = .ok t ∧ Text.blank t = false ∧ Text.trim t = name

def Nameless (p : Payload) : Prop := p = .null ∨ ∃ t, p.shown = .ok t ∧ Text.blank t = true

def words (b : Bool) : List Text :=
  if b then ["1", "true", "yes", "on"] else ["0", "false", "no", "off"]

def Says (p : Payload) (b : Bool) : Prop :=
  p = .boolean b ∨ ∃ t, p.shown = .ok t ∧ Text.lowerAscii (Text.trim t) ∈ words b

lemma optional_eq (h : p ≠ .null) :
    p.optional = p.shown.map fun t => if Text.blank t then none else some (Text.trim t) := by
  cases p <;> first | rfl | exact absurd rfl h

lemma optional_some_iff {name : Text} : p.optional = .ok (some name) ↔ p.Names name := by
  by_cases hp : p = .null
  · simp [hp, optional, Names]
  · rw [optional_eq hp, Names, and_iff_right hp]
    cases p.shown with
    | error e => simp [Except.map]
    | ok t => cases hb : Text.blank t <;> simp [Except.map, hb]

lemma optional_none_iff : p.optional = .ok none ↔ p.Nameless := by
  by_cases hp : p = .null
  · simp [hp, optional, Nameless]
  · rw [optional_eq hp, Nameless, or_iff_right hp]
    cases p.shown with
    | error e => simp [Except.map]
    | ok t => cases hb : Text.blank t <;> simp [Except.map, hb]

lemma Names.named {name : Text} (h : p.Names name) : Text.blank name = false := by
  obtain ⟨-, t, -, hb, rfl⟩ := h
  rw [Text.blank_trim, hb]

lemma Names.unique {n m : Text} (h : p.Names n) (h' : p.Names m) : n = m := by
  obtain ⟨-, t, ht, -, rfl⟩ := h
  obtain ⟨-, u, hu, -, rfl⟩ := h'
  rw [Except.ok.inj (ht.symm.trans hu)]

lemma optional_of_short (h : p.Short) : ∃ x, p.optional = .ok x := by
  by_cases hp : p = .null
  · exact ⟨none, by rw [hp]; rfl⟩
  · obtain ⟨t, ht⟩ := shown_of_short h
    exact ⟨_, by rw [optional_eq hp, ht]; rfl⟩

lemma permissive?_eq_some_iff {t : Text} {b : Bool} :
    Conversion.permissive? t = some b ↔ Text.lowerAscii (Text.trim t) ∈ words b := by
  have hwords : ∀ w ∈ words false, w ∉ words true := by decide
  have hp : Conversion.permissive? t =
      if Text.lowerAscii (Text.trim t) ∈ words true then some true
      else if Text.lowerAscii (Text.trim t) ∈ words false then some false else none := by
    simp only [Conversion.permissive?, List.contains_iff_mem]
    rfl
  rw [hp]
  by_cases htrue : Text.lowerAscii (Text.trim t) ∈ words true
  · have hfalse : Text.lowerAscii (Text.trim t) ∉ words false := fun h => hwords _ h htrue
    cases b <;> simp [htrue, hfalse]
  · by_cases hfalse : Text.lowerAscii (Text.trim t) ∈ words false
    · cases b <;> simp [htrue, hfalse]
    · cases b <;> simp [htrue, hfalse]

lemma permissive?_trim (t : Text) :
    (if Text.blank t then none else some (Text.trim t)).bind Conversion.permissive? =
      Conversion.permissive? t := by
  split
  -- nothing is a word for neither, so blank texts need no case of their own
  · rename_i hb
    rw [Conversion.permissive?, Text.trim_of_blank hb]
    rfl
  · rw [Option.bind_some, Conversion.permissive?, Text.trim_trim]
    rfl

lemma says_boolean {b c : Bool} : (boolean c).Says b ↔ c = b := by
  constructor
  · rintro (h | ⟨t, ht, hw⟩)
    · exact Payload.boolean.inj h
    · obtain rfl := Except.ok.inj ht
      revert hw
      cases b <;> cases c <;> decide
  · rintro rfl
    exact .inl rfl

lemma says_iff {t : Text} {b : Bool} (hp : ∀ c, p ≠ .boolean c) (ht : p.shown = .ok t) :
    p.Says b ↔ Text.lowerAscii (Text.trim t) ∈ words b := by
  rw [Says, or_iff_right (hp b)]
  simp [ht]

lemma permissive_of_short (h : p.Short) :
    ∃ x, p.permissive = .ok x ∧ ∀ b, x = some b ↔ p.Says b := by
  by_cases hb : ∃ c, p = .boolean c
  · obtain ⟨c, rfl⟩ := hb
    exact ⟨some c, rfl, fun b => by rw [says_boolean, Option.some.injEq]⟩
  · push Not at hb
    have hp : p.permissive = p.optional.map fun t => t.bind Conversion.permissive? := by
      cases p <;> first | rfl | exact absurd rfl (hb _)
    obtain ⟨t, ht⟩ := shown_of_short h
    refine ⟨Conversion.permissive? t, ?_, fun b => ?_⟩
    · by_cases hn : p = .null
      -- null has the text `None`, which is a word for neither
      · subst hn
        obtain rfl : "None" = t := Except.ok.inj ht
        rw [hp]
        rfl
      · rw [hp, optional_eq hn, ht, ← permissive?_trim t]
        rfl
    · rw [permissive?_eq_some_iff, says_iff hb ht]

end Words

end PropertyFile.Payload
