import PropertyFile.Proofs.Pieces

/-! Texts in which replacing one reference cannot make, hide or lengthen another. -/

namespace PropertyFile.Reference

def literal : List Piece → Text
  | .plain c :: ps => c :: literal ps
  | _ => []

/-- No bare reference is followed by another one at once, and a `$` that begins no reference cannot
come to begin one, whatever text takes the place of what stands behind its plain text. -/
def Separated : List Piece → Prop
  | [] => True
  | .plain c :: ps =>
    (c = .char '$' → ∀ u : Text, at? (c :: literal ps ++ u) = none) ∧ Separated ps
  | .reference name spelling :: ps =>
    (spelling = bare name → ∀ p ∈ ps.head?, p.name? = none) ∧ Separated ps

/-- No place of the text begins a reference, whatever follows the text. -/
def Inert : Text → Prop
  | [] => True
  | c :: t => (∀ u : Text, at? (c :: t ++ u) = none) ∧ Inert t

section Inert

variable {s t : Text}

lemma inert_of_not_dollar (h : .char '$' ∉ t) : Inert t := by
  induction t with
  | nil => trivial
  | cons c t ih =>
    rw [List.mem_cons, not_or] at h
    exact ⟨fun u => at?_cons_of_ne (Ne.symm h.1), ih h.2⟩

lemma inert_append (hs : Inert s) (ht : Inert t) : Inert (s ++ t) := by
  induction s with
  | nil => exact ht
  | cons c s ih =>
    refine ⟨fun u => ?_, ih hs.2⟩
    have h := hs.1 (t ++ u)
    rwa [List.cons_append, ← List.append_assoc, ← List.cons_append] at h

lemma pieces_inert_append (hs : Inert s) : pieces (s ++ t) = s.map .plain ++ pieces t := by
  induction s with
  | nil => rfl
  | cons c s ih =>
    have h := hs.1 t
    rw [List.cons_append] at h ⊢
    rw [pieces_cons h, ih hs.2]
    rfl

lemma pieces_inert (hs : Inert s) : pieces s = s.map .plain := by
  simpa [pieces_nil] using pieces_inert_append (t := []) hs

lemma names_inert (hs : Inert s) : names s = [] := by
  rw [List.eq_nil_iff_forall_not_mem]
  intro n hn
  obtain ⟨spelling, hm⟩ := mem_names.mp hn
  simp [pieces_inert hs] at hm

lemma literal_inert (s : Text) : literal (s.map .plain) = s := by
  induction s with
  | nil => rfl
  | cons c s ih => simp [literal, ih]

lemma separated_inert (hs : Inert s) : Separated (pieces s) := by
  rw [pieces_inert hs]
  induction s with
  | nil => trivial
  | cons c s ih =>
    refine ⟨fun _ u => ?_, ih hs.2⟩
    rw [literal_inert]
    exact hs.1 u

lemma replace_inert_append {name : Text} (hn : isName name = true) (replacement : Text)
    (hs : Inert s) : replace name replacement (s ++ t) = s ++ replace name replacement t := by
  induction s with
  | nil => rfl
  | cons c s ih =>
    have h := hs.1 t
    rw [List.cons_append] at h ⊢
    rw [replace_cons hn replacement h, ih hs.2, List.cons_append]

end Inert

inductive Settled : List Piece → Prop
  | nil : Settled []
  | plain {c : CodePoint} {ps : List Piece} :
    (∀ u : Text, at? (c :: literal ps ++ u) = none) → Settled ps → Settled (.plain c :: ps)
  | reference {name spelling : Text} {ps : List Piece} : isName name = true →
    Spells name spelling →
    (spelling = bare name → ∀ p ∈ ps.head?, ∃ d, p = .plain d ∧ isNameChar d = false) →
    Settled ps → Settled (.reference name spelling :: ps)

lemma head?_of_pieces {t : Text} {d : CodePoint} (h : (pieces t).head? = some (.plain d)) :
    t.head? = some d := by
  rw [← text_pieces t]
  cases hp : pieces t with
  | nil => simp [hp] at h
  | cons p ps =>
    rw [hp] at h
    obtain rfl := Option.some.inj h
    rfl

lemma settled_pieces {t : Text} (h : Separated (pieces t)) : Settled (pieces t) := by
  induction t using pieces_induction with
  | nil => exact .nil
  | plain c t ha ih =>
    rw [pieces_cons ha] at h ⊢
    refine .plain (fun u => ?_) (ih h.2)
    by_cases hc : c = .char '$'
    · exact h.1 hc u
    · exact at?_cons_of_ne hc
  | reference name spelling rest hn ho ih =>
    rw [pieces_append hn ho] at h ⊢
    refine .reference hn ho.1 (fun hb p hp => ?_) (ih h.2)
    have hnone := h.1 hb p hp
    cases p with
    | reference _ _ => cases hnone
    | plain d => exact ⟨d, rfl, ho.2 hb d (head?_of_pieces hp)⟩

def fill (done : List Text) (ρ : Text → Text) (ps : List Piece) : Text :=
  ps.flatMap (Piece.filled done ρ)

lemma separated_price : Separated (pieces (Text.ofChars ['5', '$', '1'])) := by
  have hp : pieces (Text.ofChars ['5', '$', '1']) = [.plain '5', .plain '$', .plain '1'] := by
    decide
  have hdollar (u : Text) : at? (.char '$' :: .char '1' :: u) = none :=
    at?_dollar_of_not_initial (by decide) (by decide)
  simp [hp, Separated, literal, hdollar]

section Filled

variable {done : List Text} {ρ : Text → Text} {ps : List Piece} {name : Text}

lemma fill_nil (t : Text) : fill [] ρ (pieces t) = t := by
  have h : Piece.filled [] ρ = Piece.text := by
    funext p
    cases p <;> simp [Piece.filled, Piece.text]
  rw [fill, h, text_pieces]

lemma literal_isPrefix_fill (done : List Text) (ρ : Text → Text) (ps : List Piece) :
    ∃ u, fill done ρ ps = literal ps ++ u := by
  induction ps with
  | nil => exact ⟨[], rfl⟩
  | cons p ps ih =>
    cases p with
    | plain c =>
      obtain ⟨u, hu⟩ := ih
      exact ⟨u, congrArg (c :: ·) hu⟩
    | reference name spelling => exact ⟨_, rfl⟩

lemma at?_fill {c : CodePoint} (h : ∀ u : Text, at? (c :: literal ps ++ u) = none) (u : Text) :
    at? (c :: fill done ρ ps ++ u) = none := by
  obtain ⟨v, hv⟩ := literal_isPrefix_fill done ρ ps
  rw [hv]
  simpa using h (v ++ u)

lemma opens_fill {spelling : Text} (hs : Spells name spelling)
    (h : spelling = bare name → ∀ p ∈ ps.head?, ∃ d, p = .plain d ∧ isNameChar d = false) :
    Opens name spelling (fill done ρ ps) := by
  refine ⟨hs, fun hb => ?_⟩
  cases ps with
  | nil => exact ends_nil
  | cons p ps =>
    obtain ⟨d, rfl, hd⟩ := h hb p rfl
    exact ends_cons.mpr hd

lemma replace_fill (hn : isName name = true) (hps : Settled ps) (hρ : ∀ n ∈ done, Inert (ρ n)) :
    replace name (ρ name) (fill done ρ ps) = fill (name :: done) ρ ps := by
  induction hps with
  | nil => rfl
  | @plain c ps ha _ ih =>
    have hc : at? (c :: fill done ρ ps) = none := by simpa using at?_fill ha []
    change replace name (ρ name) (c :: fill done ρ ps) = c :: fill (name :: done) ρ ps
    rw [replace_cons hn _ hc, ih]
  | @reference other spelling ps ho hs hb _ ih =>
    have hopen : Opens other spelling (fill done ρ ps) := opens_fill hs hb
    simp only [fill, List.flatMap_cons, Piece.filled] at ih hopen ⊢
    -- a text put in earlier is passed over; a reference that still stands is met where it stood
    by_cases hd : other ∈ done
    · simp [hd, replace_inert_append hn _ (hρ other hd), ih]
    · by_cases he : other = name
      · subst he
        simp [hd, replace_append hn _ hopen, ih]
      · simp [hd, he, replace_append_of_ne hn _ ho he hopen, ih]

lemma foldl_replace_fill {ns : List Text} (hn : ∀ n ∈ ns, isName n = true) (hps : Settled ps)
    (hρ : ∀ n ∈ ns, Inert (ρ n)) (hd : ∀ n ∈ done, Inert (ρ n)) :
    ns.foldl (fun t n => replace n (ρ n) t) (fill done ρ ps) = fill (ns.reverse ++ done) ρ ps := by
  induction ns generalizing done with
  | nil => rfl
  | cons n ns ih =>
    rw [List.forall_mem_cons] at hn hρ
    rw [List.foldl_cons, replace_fill hn.1 hps hd,
      ih hn.2 hρ.2 (List.forall_mem_cons.mpr ⟨hρ.1, hd⟩)]
    simp

lemma inert_fill (hps : Settled ps) (hd : ∀ n s, .reference n s ∈ ps → n ∈ done)
    (hρ : ∀ n ∈ done, Inert (ρ n)) : Inert (fill done ρ ps) := by
  induction hps with
  | nil => trivial
  | plain ha _ ih =>
    exact ⟨at?_fill ha, ih fun n s h => hd n s (List.mem_cons_of_mem _ h)⟩
  | @reference n s ps _ _ _ _ ih =>
    have hm := hd n s List.mem_cons_self
    simp only [fill, List.flatMap_cons, Piece.filled, hm, if_true]
    exact inert_append (hρ n hm) (ih fun n s h => hd n s (List.mem_cons_of_mem _ h))

end Filled

end PropertyFile.Reference
