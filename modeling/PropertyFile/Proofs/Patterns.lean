import PropertyFile.Proofs.Spelling

/-! The patterns of references match just what the two readers of references read. -/

namespace PropertyFile

inductive Pattern
  | one (p : CodePoint → Bool)
  | many (p : CodePoint → Bool)
  | word (w : Text)
  | notBefore (p : CodePoint → Bool)
  | seq (a b : Pattern)
  | alt (a b : Pattern)
  | captured (a : Pattern)

namespace Pattern

def runs (p : CodePoint → Bool) : Text → List Text
  | [] => [[]]
  | c :: t => if p c then runs p t ++ [c :: t] else [c :: t]

def ways : Pattern → Text → List (Option Text × Text)
  | .one _, [] => []
  | .one p, c :: t => if p c then [(none, t)] else []
  | .many p, t => (runs p t).map fun u => (none, u)
  | .word w, t => if w.isPrefixOf t then [(none, t.drop w.length)] else []
  | .notBefore p, t => if t.head?.any p then [] else [(none, t)]
  | .seq a b, t => (ways a t).flatMap fun x => (ways b x.2).map fun y => (x.1.or y.1, y.2)
  | .alt a b, t => ways a t ++ ways b t
  | .captured a, t => (ways a t).map fun x => (some (t.take (t.length - x.2.length)), x.2)

def first? (p : Pattern) (t : Text) : Option (Option Text × Text) := (ways p t).head?

variable {p : CodePoint → Bool} {a b : Pattern} {k : Option Text} {s t u w name : Text}

lemma mem_runs : u ∈ runs p t ↔ ∃ s, s.all p = true ∧ t = s ++ u := by
  induction t with
  | nil =>
    simp only [runs, List.mem_singleton, List.nil_eq_append_iff]
    constructor
    · rintro rfl
      exact ⟨[], rfl, rfl, rfl⟩
    · rintro ⟨_, _, _, hu⟩
      exact hu
  | cons c t ih =>
    have hsplit : (∃ s, s.all p = true ∧ c :: t = s ++ u) ↔
        u = c :: t ∨ p c = true ∧ ∃ s, s.all p = true ∧ t = s ++ u := by
      constructor
      · rintro ⟨s, hs, ht⟩
        cases s with
        | nil => exact .inl ht.symm
        | cons d s =>
          obtain ⟨rfl, rfl⟩ := List.cons.inj ht
          simp only [List.all_cons, Bool.and_eq_true] at hs
          exact .inr ⟨hs.1, s, hs.2, rfl⟩
      · rintro (rfl | ⟨hc, s, hs, rfl⟩)
        · exact ⟨[], rfl, rfl⟩
        · exact ⟨c :: s, by simp [hc, hs], rfl⟩
    rw [hsplit, ← ih, runs]
    split <;> simp_all [or_comm]

lemma head?_runs (p : CodePoint → Bool) (t : Text) : (runs p t).head? = some (t.dropWhile p) := by
  induction t with
  | nil => rfl
  | cons c t ih =>
    rw [runs, List.dropWhile_cons]
    split
    · simp [List.head?_append, ih]
    · rfl

lemma mem_word : (k, u) ∈ ways (.word w) t ↔ k = none ∧ t = w ++ u := by
  simp only [ways]
  split
  · rename_i h
    obtain ⟨v, rfl⟩ := List.isPrefixOf_iff_prefix.mp h
    simp [eq_comm]
  · rename_i h
    simp only [List.not_mem_nil, false_iff, not_and]
    rintro - rfl
    exact h (by simp)

lemma mem_many : (k, u) ∈ ways (.many p) t ↔ k = none ∧ ∃ s, s.all p = true ∧ t = s ++ u := by
  rw [ways, ← mem_runs]
  constructor
  · intro h
    obtain ⟨v, hv, he⟩ := List.mem_map.mp h
    obtain ⟨rfl, rfl⟩ := Prod.mk.inj he
    exact ⟨rfl, hv⟩
  · rintro ⟨rfl, hu⟩
    exact List.mem_map_of_mem hu

lemma mem_seq : (k, u) ∈ ways (.seq a b) t ↔
    ∃ k₁ v k₂, (k₁, v) ∈ ways a t ∧ (k₂, u) ∈ ways b v ∧ k = k₁.or k₂ := by
  simp only [ways, List.mem_flatMap, List.mem_map, Prod.exists, Prod.mk.injEq]
  constructor
  · rintro ⟨k₁, v, ha, k₂, _, hb, rfl, rfl⟩
    exact ⟨k₁, v, k₂, ha, hb, rfl⟩
  · rintro ⟨k₁, v, k₂, ha, hb, rfl⟩
    exact ⟨k₁, v, ha, k₂, u, hb, rfl, rfl⟩

lemma mem_word_seq : (k, u) ∈ ways (.seq (.word w) b) t ↔
    ∃ v, t = w ++ v ∧ (k, u) ∈ ways b v := by
  rw [mem_seq]
  constructor
  · rintro ⟨k₁, v, k₂, ha, hb, rfl⟩
    obtain ⟨rfl, rfl⟩ := mem_word.mp ha
    exact ⟨v, rfl, hb⟩
  · rintro ⟨v, rfl, hb⟩
    exact ⟨none, v, k, mem_word.mpr ⟨rfl, rfl⟩, hb, rfl⟩

lemma mem_many_seq : (k, u) ∈ ways (.seq (.many p) b) t ↔
    ∃ s v, s.all p = true ∧ t = s ++ v ∧ (k, u) ∈ ways b v := by
  rw [mem_seq]
  constructor
  · rintro ⟨k₁, v, k₂, ha, hb, rfl⟩
    obtain ⟨rfl, s, hs, rfl⟩ := mem_many.mp ha
    exact ⟨s, v, hs, rfl, hb⟩
  · rintro ⟨s, v, hs, rfl, hb⟩
    exact ⟨none, v, k, mem_many.mpr ⟨rfl, s, hs, rfl⟩, hb, rfl⟩

lemma mem_captured : (k, u) ∈ ways (.captured a) t ↔
    ∃ k₁, (k₁, u) ∈ ways a t ∧ k = some (t.take (t.length - u.length)) := by
  simp [ways, eq_comm]

open Reference (isInitial isNameChar isName nameAt? at? spelling? Ends Opens Spells bare)
open Text (isBlank blank)

def nameShape : Pattern := .seq (.one isInitial) (.seq (.one isNameChar) (.many isNameChar))

def braced (inner : Pattern) : Pattern :=
  .seq (.word [.char '$', .char '{'])
    (.seq (.many isBlank) (.seq inner (.seq (.many isBlank) (.word [.char '}']))))

def reference : Pattern :=
  .alt (braced (.captured nameShape)) (.seq (.word [.char '$']) (.captured nameShape))

def referenceTo (name : Text) : Pattern :=
  .alt (braced (.word name)) (.seq (.word (bare name)) (.notBefore isNameChar))

lemma mem_one_seq : (k, u) ∈ ways (.seq (.one p) b) t ↔
    ∃ c v, p c = true ∧ t = c :: v ∧ (k, u) ∈ ways b v := by
  cases t with
  | nil => simp [ways]
  | cons c v =>
    by_cases hc : p c = true
    · simp [ways, hc]
    · simp [ways, hc]

lemma mem_braced {inner : Pattern} : (k, u) ∈ ways (braced inner) t ↔
    ∃ s v w, blank s = true ∧ blank w = true ∧ t = .char '$' :: .char '{' :: (s ++ v) ∧
      (k, w ++ .char '}' :: u) ∈ ways inner v := by
  simp only [braced, mem_word_seq, mem_many_seq]
  constructor
  · rintro ⟨_, rfl, s, v, hs, rfl, h⟩
    obtain ⟨k₁, _, k₂, hinner, hw, rfl⟩ := mem_seq.mp h
    obtain ⟨w, _, hblank, rfl, hx⟩ := mem_many_seq.mp hw
    obtain ⟨rfl, rfl⟩ := mem_word.mp hx
    rw [Option.or_none]
    exact ⟨s, v, w, hs, hblank, rfl, hinner⟩
  · rintro ⟨s, v, w, hs, hw, rfl, h⟩
    refine ⟨_, rfl, s, v, hs, rfl, mem_seq.mpr ⟨k, _, none, h, ?_, by simp⟩⟩
    exact mem_many_seq.mpr ⟨w, _, hw, rfl, mem_word.mpr ⟨rfl, rfl⟩⟩

lemma mem_nameShape : (k, u) ∈ ways nameShape t ↔ k = none ∧ ∃ n, isName n = true ∧ t = n ++ u := by
  simp only [nameShape, mem_one_seq, mem_many]
  constructor
  · rintro ⟨c, _, hc, rfl, d, _, hd, rfl, rfl, s, hs, rfl⟩
    exact ⟨rfl, c :: d :: s, by simp [isName, hc, hd, hs], rfl⟩
  · rintro ⟨rfl, n, hn, rfl⟩
    obtain ⟨c, d, s, rfl⟩ := Reference.eq_cons_of_isName hn
    simp only [isName, List.all_cons, Bool.and_eq_true] at hn
    exact ⟨c, _, hn.1, rfl, d, _, hn.2.1, rfl, rfl, s, hn.2.2, rfl⟩

lemma mem_captured_name : (k, u) ∈ ways (.captured nameShape) t ↔
    ∃ n, isName n = true ∧ k = some n ∧ t = n ++ u := by
  rw [mem_captured]
  constructor
  · rintro ⟨k₁, h, rfl⟩
    obtain ⟨rfl, n, hn, rfl⟩ := mem_nameShape.mp h
    exact ⟨n, hn, by simp, rfl⟩
  · rintro ⟨n, hn, rfl, rfl⟩
    exact ⟨none, mem_nameShape.mpr ⟨rfl, n, hn, rfl⟩, by simp⟩

lemma nameAt?_ne_none {n : Text} (hn : isName n = true) : nameAt? (n ++ u) ≠ none := by
  have htake : (n ++ u).takeWhile isNameChar = n ++ u.takeWhile isNameChar :=
    List.takeWhile_append_of_pos (Reference.all_of_isName hn)
  have hname : isName (n ++ u.takeWhile isNameChar) = true := by
    obtain ⟨c, d, s, rfl⟩ := Reference.eq_cons_of_isName hn
    simpa [isName] using hn
  simp [nameAt?, htake, hname]

lemma head?_nameShape (t : Text) : (ways nameShape t).head? =
    (nameAt? t).map fun n => (none, t.drop n.length) := by
  cases h : nameAt? t with
  | none =>
    rw [Option.map_none, List.head?_eq_none_iff, List.eq_nil_iff_forall_not_mem]
    rintro ⟨k, u⟩ hu
    obtain ⟨-, n, hn, rfl⟩ := mem_nameShape.mp hu
    exact nameAt?_ne_none hn h
  | some n =>
    obtain ⟨hn, rest, rfl, he⟩ := Reference.exists_of_nameAt? h
    obtain ⟨c, d, s, rfl⟩ := Reference.eq_cons_of_isName hn
    simp only [isName, List.all_cons, Bool.and_eq_true, List.all_eq_true] at hn
    have hrest : (s ++ rest).dropWhile isNameChar = rest := by
      rw [List.dropWhile_append_of_pos hn.2.2]
      cases rest with
      | nil => rfl
      | cons e rest => exact List.dropWhile_cons_of_neg (by simp [Reference.ends_cons.mp he])
    simp [nameShape, ways, hn.1, hn.2.1, head?_runs, hrest]

lemma head?_captured_name (t : Text) : (ways (.captured nameShape) t).head? =
    (nameAt? t).map fun n => (some n, t.drop n.length) := by
  rw [ways, List.head?_map, head?_nameShape, Option.map_map]
  cases h : nameAt? t with
  | none => rfl
  | some n =>
    obtain ⟨-, rest, rfl, -⟩ := Reference.exists_of_nameAt? h
    simp

lemma head?_bare_reference : (ways (.seq (.word [.char '$']) (.captured nameShape)) t).head? =
    some (k, u) ↔ ∃ n, isName n = true ∧ k = some n ∧ t = bare n ++ u ∧ Ends u := by
  cases t with
  | nil => simp [ways, bare]
  | cons c t =>
    by_cases hc : c = .char '$'
    · subst hc
      have hw : ways (.seq (.word [.char '$']) (.captured nameShape)) (.char '$' :: t) =
          ways (.captured nameShape) t := by
        simp [ways]
      rw [hw, head?_captured_name, Option.map_eq_some_iff]
      constructor
      · rintro ⟨n, hn, he⟩
        obtain ⟨rfl, rfl⟩ := Prod.mk.inj he
        obtain ⟨hname, rest, rfl, hends⟩ := Reference.exists_of_nameAt? hn
        exact ⟨n, hname, rfl, by simp [bare], by simpa using hends⟩
      · rintro ⟨n, hn, rfl, ht, he⟩
        obtain rfl := (List.cons.inj ht).2
        exact ⟨n, Reference.nameAt?_append hn he, by simp⟩
    · simp [ways, bare, hc, Ne.symm hc]

lemma mem_braced_reference : (k, u) ∈ ways (braced (.captured nameShape)) t ↔
    ∃ n a b, isName n = true ∧ blank a = true ∧ blank b = true ∧ k = some n ∧
      t = Reference.braced n a b ++ u := by
  rw [mem_braced]
  constructor
  · rintro ⟨a, v, b, ha, hb, rfl, h⟩
    obtain ⟨n, hn, rfl, rfl⟩ := mem_captured_name.mp h
    exact ⟨n, a, b, hn, ha, hb, rfl, by simp [Reference.braced]⟩
  · rintro ⟨n, a, b, hn, ha, hb, rfl, rfl⟩
    refine ⟨a, n ++ (b ++ .char '}' :: u), b, ha, hb, by simp [Reference.braced], ?_⟩
    exact mem_captured_name.mpr ⟨n, hn, rfl, rfl⟩

lemma first?_alt (a b : Pattern) (t : Text) :
    first? (.alt a b) t = ((ways a t).head?).or (ways b t).head? := by
  rw [first?, ways, List.head?_append]

lemma opens_of_first? (h : first? reference t = some (k, u)) :
    ∃ n spelling, k = some n ∧ isName n = true ∧ Opens n spelling u ∧ t = spelling ++ u := by
  rw [reference, first?_alt, Option.or_eq_some_iff] at h
  rcases h with h | ⟨-, h⟩
  · obtain ⟨n, a, b, hn, ha, hb, rfl, rfl⟩ := mem_braced_reference.mp (List.mem_of_head? h)
    exact ⟨n, _, rfl, hn, Reference.opens_braced hn ha hb, rfl⟩
  · obtain ⟨n, hn, rfl, rfl, he⟩ := head?_bare_reference.mp h
    exact ⟨n, _, rfl, hn, ⟨.bare, fun _ => he⟩, rfl⟩

theorem first?_reference (t : Text) :
    first? reference t = (at? t).map fun x => (some x.1, t.drop x.2) := by
  cases hf : first? reference t with
  | some x =>
    obtain ⟨k, u⟩ := x
    obtain ⟨n, spelling, rfl, hn, ho, rfl⟩ := opens_of_first? hf
    simp [Reference.at?_append hn ho]
  | none =>
    cases hat : at? t with
    | none => rfl
    | some x =>
      obtain ⟨n, l⟩ := x
      obtain ⟨hn, spelling, rest, rfl, -, hs, he⟩ := Reference.exists_of_at? hat
      rw [reference, first?_alt, Option.or_eq_none_iff, List.head?_eq_none_iff] at hf
      cases hs with
      | bare =>
        have hb := head?_bare_reference.mpr ⟨n, hn, rfl, rfl, he rfl⟩
        simp [hf.2] at hb
      | @braced a b ha hb =>
        have hm : (some n, rest) ∈ ways (braced (.captured nameShape)) _ :=
          mem_braced_reference.mpr ⟨n, a, b, hn, ha, hb, rfl, rfl⟩
        simp [hf.1] at hm

lemma mem_braced_word : (k, u) ∈ ways (braced (.word name)) t ↔
    ∃ a b, blank a = true ∧ blank b = true ∧ k = none ∧ t = Reference.braced name a b ++ u := by
  rw [mem_braced]
  constructor
  · rintro ⟨a, v, b, ha, hb, rfl, h⟩
    obtain ⟨rfl, rfl⟩ := mem_word.mp h
    exact ⟨a, b, ha, hb, rfl, by simp [Reference.braced]⟩
  · rintro ⟨a, b, ha, hb, rfl, rfl⟩
    refine ⟨a, name ++ (b ++ .char '}' :: u), b, ha, hb, by simp [Reference.braced], ?_⟩
    exact mem_word.mpr ⟨rfl, rfl⟩

lemma mem_notBefore :
    (k, u) ∈ ways (.notBefore p) t ↔ k = none ∧ t = u ∧ t.head?.any p = false := by
  rw [ways]
  split
  · rename_i h
    simp only [List.not_mem_nil, false_iff, not_and]
    rintro - rfl
    simp [h]
  · rename_i h
    rw [List.mem_singleton, Prod.mk.injEq]
    constructor
    · rintro ⟨rfl, rfl⟩
      exact ⟨rfl, rfl, by simpa using h⟩
    · rintro ⟨rfl, rfl, -⟩
      exact ⟨rfl, rfl⟩

lemma ends_iff : Ends u ↔ u.head?.any isNameChar = false := by
  cases u <;> simp [Ends]

lemma mem_bare_word : (k, u) ∈ ways (.seq (.word (bare name)) (.notBefore isNameChar)) t ↔
    k = none ∧ t = bare name ++ u ∧ Ends u := by
  rw [mem_word_seq, ends_iff]
  constructor
  · rintro ⟨v, rfl, h⟩
    obtain ⟨rfl, rfl, he⟩ := mem_notBefore.mp h
    exact ⟨rfl, rfl, he⟩
  · rintro ⟨rfl, rfl, he⟩
    exact ⟨u, rfl, mem_notBefore.mpr ⟨rfl, rfl, he⟩⟩

lemma mem_referenceTo (hn : isName name = true) :
    (k, u) ∈ ways (referenceTo name) t ↔
      k = none ∧ ∃ spelling, Opens name spelling u ∧ t = spelling ++ u := by
  rw [referenceTo, ways, List.mem_append, mem_braced_word, mem_bare_word]
  constructor
  · rintro (⟨a, b, ha, hb, rfl, rfl⟩ | ⟨rfl, rfl, he⟩)
    · exact ⟨rfl, _, Reference.opens_braced hn ha hb, rfl⟩
    · exact ⟨rfl, _, ⟨.bare, fun _ => he⟩, rfl⟩
  · rintro ⟨rfl, spelling, ⟨hs, he⟩, rfl⟩
    cases hs with
    | bare => exact .inr ⟨rfl, rfl, he rfl⟩
    | @braced a b ha hb => exact .inl ⟨a, b, ha, hb, rfl, rfl⟩

theorem first?_referenceTo (hn : isName name = true) (t : Text) :
    first? (referenceTo name) t = (spelling? name t).map fun l => (none, t.drop l) := by
  cases hf : first? (referenceTo name) t with
  | some x =>
    obtain ⟨k, u⟩ := x
    obtain ⟨rfl, spelling, ho, rfl⟩ := (mem_referenceTo hn).mp (List.mem_of_head? hf)
    simp [Reference.spelling?_append hn ho]
  | none =>
    cases hs : spelling? name t with
    | none => rfl
    | some l =>
      obtain ⟨spelling, rest, rfl, -, ho⟩ := Reference.exists_of_spelling? hn hs
      have hm := (mem_referenceTo hn).mpr ⟨rfl, spelling, ho, rfl⟩
      rw [first?, List.head?_eq_none_iff] at hf
      simp [hf] at hm

end Pattern

end PropertyFile
