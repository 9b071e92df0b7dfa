import PropertyFile.Proofs.Spelling

/-! Cutting a text into pieces loses nothing, and replacing a name replaces just the pieces that
refer to it. -/

namespace PropertyFile.Reference

variable {name spelling t rest : Text} {c : CodePoint}

lemma piecesFrom_drop (skip : ℕ) (t : Text) : piecesFrom skip t = pieces (t.drop skip) := by
  induction t generalizing skip with
  | nil => cases skip <;> rfl
  | cons c t ih =>
    cases skip with
    | zero => rfl
    | succ n => simpa [piecesFrom] using ih n

lemma pieces_nil : pieces [] = [] := rfl

lemma pieces_cons (h : at? (c :: t) = none) : pieces (c :: t) = .plain c :: pieces t := by
  simp [pieces, piecesFrom, h]

lemma pieces_append (hn : isName name = true) (h : Opens name spelling rest) :
    pieces (spelling ++ rest) = .reference name spelling :: pieces rest := by
  have ha := at?_append hn h
  obtain ⟨inner, rfl⟩ := spelling_eq_cons h.1
  rw [List.cons_append] at ha ⊢
  rw [pieces, piecesFrom, ha]
  simp [piecesFrom_drop]

lemma replaceFrom_drop (name replacement : Text) (skip : ℕ) (t : Text) :
    replaceFrom name replacement skip t = replace name replacement (t.drop skip) := by
  induction t generalizing skip with
  | nil => cases skip <;> rfl
  | cons c t ih =>
    cases skip with
    | zero => rfl
    | succ n => simpa [replaceFrom] using ih n

lemma replace_cons (hn : isName name = true) (replacement : Text) (h : at? (c :: t) = none) :
    replace name replacement (c :: t) = c :: replace name replacement t := by
  simp [replace, replaceFrom, spelling?_of_none hn h]

lemma replace_append (hn : isName name = true) (replacement : Text)
    (h : Opens name spelling rest) :
    replace name replacement (spelling ++ rest) = replacement ++ replace name replacement rest := by
  have ha := spelling?_append hn h
  obtain ⟨inner, rfl⟩ := spelling_eq_cons h.1
  rw [List.cons_append] at ha ⊢
  rw [replace, replaceFrom, ha]
  simp [replaceFrom_drop]

lemma replace_append_of_not_dollar (hn : isName name = true) (replacement : Text) {s : Text}
    (hs : .char '$' ∉ s) :
    replace name replacement (s ++ rest) = s ++ replace name replacement rest := by
  induction s with
  | nil => rfl
  | cons c s ih =>
    simp only [List.mem_cons, not_or] at hs
    rw [List.cons_append, replace_cons hn replacement (at?_cons_of_ne (Ne.symm hs.1)), ih hs.2,
      List.cons_append]

lemma replace_append_of_ne {other : Text} (hn : isName name = true) (replacement : Text)
    (ho : isName other = true) (hne : other ≠ name) (h : Opens other spelling rest) :
    replace name replacement (spelling ++ rest) = spelling ++ replace name replacement rest := by
  have hs := spelling?_of_ne hn ho hne h
  obtain ⟨inner, rfl⟩ := spelling_eq_cons h.1
  rw [List.cons_append] at hs
  have hi : replace name replacement (inner ++ rest) = inner ++ replace name replacement rest :=
    replace_append_of_not_dollar hn replacement (not_dollar_tail ho h.1)
  rw [List.cons_append, replace, replaceFrom, hs, List.cons_append, ← hi]
  rfl

theorem pieces_induction {P : Text → Prop} (nil : P [])
    (plain : ∀ c t, at? (c :: t) = none → P t → P (c :: t))
    (reference : ∀ name spelling rest, isName name = true → Opens name spelling rest → P rest →
      P (spelling ++ rest)) (t : Text) : P t := by
  induction hk : t.length using Nat.strong_induction_on generalizing t with
  | h k ih =>
    cases t with
    | nil => exact nil
    | cons c t =>
      cases ha : at? (c :: t) with
      | none => exact plain c t ha (ih t.length (by simp [← hk]) t rfl)
      | some x =>
        obtain ⟨name, l⟩ := x
        obtain ⟨hn, spelling, rest, ht, _, ho⟩ := exists_of_at? ha
        obtain ⟨inner, rfl⟩ := spelling_eq_cons ho.1
        have hl := congrArg List.length ht
        simp only [List.length_cons, List.length_append] at hl hk
        rw [ht]
        exact reference _ _ _ hn ho (ih rest.length (by omega) rest rfl)

theorem text_pieces (t : Text) : (pieces t).flatMap Piece.text = t := by
  induction t using pieces_induction with
  | nil => rfl
  | plain c t h ih => simp [pieces_cons h, Piece.text, ih]
  | reference name spelling rest hn ho ih => simp [pieces_append hn ho, Piece.text, ih]

def Piece.filled (done : List Text) (ρ : Text → Text) : Piece → Text
  | .plain c => [c]
  | .reference name spelling => if name ∈ done then ρ name else spelling

lemma isName_of_mem_pieces {t : Text} (h : .reference name spelling ∈ pieces t) :
    isName name = true ∧ Spells name spelling := by
  induction t using pieces_induction with
  | nil => simp [pieces_nil] at h
  | plain c t ha ih =>
    rw [pieces_cons ha] at h
    exact ih (by simpa using h)
  | reference other s rest ho hs ih =>
    rw [pieces_append ho hs] at h
    rcases List.mem_cons.mp h with he | h
    · obtain ⟨rfl, rfl⟩ := Piece.reference.inj he
      exact ⟨ho, hs.1⟩
    · exact ih h

lemma mem_names : name ∈ names t ↔ ∃ spelling, .reference name spelling ∈ pieces t := by
  simp only [names, List.mem_eraseDups, List.mem_filterMap]
  constructor
  · rintro ⟨p, hp, hn⟩
    cases p with
    | plain c => cases hn
    | reference n s =>
      obtain rfl := Option.some.inj hn
      exact ⟨s, hp⟩
  · rintro ⟨s, hs⟩
    exact ⟨_, hs, rfl⟩

lemma isName_of_mem_names (h : name ∈ names t) : isName name = true := by
  obtain ⟨s, hs⟩ := mem_names.mp h
  exact (isName_of_mem_pieces hs).1

end PropertyFile.Reference
