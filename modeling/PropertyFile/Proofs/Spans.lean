import PropertyFile.Proofs.Patterns
import PropertyFile.Proofs.Pieces

/-! Where a text refers to a name, and that replacing the name fills just these spans. -/

namespace PropertyFile

structure Span where
  start : ℕ
  stop : ℕ
  deriving DecidableEq

def Span.fillFrom (replacement : Text) : ℕ → List Span → Text → Text
  | _, [], t => t
  | place, x :: xs, t =>
    t.take (x.start - place) ++ replacement ++
      fillFrom replacement x.stop xs (t.drop (x.stop - place))

namespace Pattern

def matchesFrom (p : Pattern) : ℕ → ℕ → Text → List (Option Text × Span)
  | _, _, [] => []
  | place, skip + 1, _ :: t => matchesFrom p (place + 1) skip t
  | place, 0, c :: t =>
    match first? p (c :: t) with
    | some (k, rest) =>
      let length := (c :: t).length - rest.length
      (k, ⟨place, place + length⟩) :: matchesFrom p (place + 1) (length - 1) t
    | none => matchesFrom p (place + 1) 0 t

def found (p : Pattern) (t : Text) : List (Option Text × Span) := matchesFrom p 0 0 t

def spans (p : Pattern) (t : Text) : List Span := (p.found t).map Prod.snd

section Matches

variable {p : Pattern} {place skip : ℕ} {c : CodePoint} {k : Option Text} {s t rest : Text}
  {x : Option Text × Span}

lemma le_of_mem_matchesFrom (h : x ∈ matchesFrom p place skip t) :
    place + skip ≤ x.2.start ∧ x.2.start ≤ x.2.stop := by
  fun_induction matchesFrom p place skip t with
  | case1 => simp at h
  | case2 place skip c t ih =>
    have := ih h
    omega
  | case3 place c t k rest hf length ih =>
    rcases List.mem_cons.mp h with rfl | h
    · simp
    · have := ih h
      omega
  | case4 place c t hf ih =>
    have := ih h
    omega

lemma pairwise_matchesFrom (p : Pattern) (place skip : ℕ) (t : Text) :
    (matchesFrom p place skip t).Pairwise fun x y => x.2.stop ≤ y.2.start := by
  fun_induction matchesFrom p place skip t with
  | case1 => exact .nil
  | case2 place skip c t ih => exact ih
  | case3 place c t k rest hf length ih =>
    refine .cons (fun y hy => ?_) ih
    have := le_of_mem_matchesFrom hy
    simp only
    omega
  | case4 place c t hf ih => exact ih

lemma matchesFrom_drop (p : Pattern) (place skip : ℕ) (t : Text) :
    matchesFrom p place skip t = matchesFrom p (place + skip) 0 (t.drop skip) := by
  induction t generalizing place skip with
  | nil => simp [matchesFrom]
  | cons c t ih =>
    cases skip with
    | zero => rfl
    | succ n =>
      rw [matchesFrom, ih, List.drop_succ_cons]
      congr 1
      omega

lemma matchesFrom_cons (h : first? p (c :: t) = none) :
    matchesFrom p place 0 (c :: t) = matchesFrom p (place + 1) 0 t := by
  rw [matchesFrom, h]

lemma matchesFrom_append (h : first? p (s ++ rest) = some (k, rest)) (hs : s ≠ []) :
    matchesFrom p place 0 (s ++ rest) =
      (k, ⟨place, place + s.length⟩) :: matchesFrom p (place + s.length) 0 rest := by
  cases s with
  | nil => exact absurd rfl hs
  | cons c s =>
    have hlength : (c :: (s ++ rest)).length - rest.length = s.length + 1 := by
      simp only [List.length_cons, List.length_append]
      omega
    have hplace : place + 1 + s.length = place + (s.length + 1) := by omega
    rw [List.cons_append] at h ⊢
    rw [matchesFrom, h]
    simp only [hlength, Nat.add_sub_cancel]
    rw [matchesFrom_drop, List.drop_left, hplace]
    rfl

end Matches

end Pattern

namespace Reference

open Pattern (first?_reference first?_referenceTo matchesFrom matchesFrom_cons matchesFrom_append
  referenceTo spans)

def referencesFrom (place : ℕ) (t : Text) : List (Text × Span) :=
  (matchesFrom Pattern.reference place 0 t).filterMap fun x => x.1.map fun n => (n, x.2)

def references (t : Text) : List (Text × Span) := referencesFrom 0 t

variable {place : ℕ} {name other spelling s t rest : Text} {c : CodePoint} {x : Span}

lemma ne_nil_of_spells (h : Spells name spelling) : spelling ≠ [] := by
  obtain ⟨inner, rfl⟩ := spelling_eq_cons h
  simp

lemma references_cons (h : at? (c :: t) = none) :
    referencesFrom place (c :: t) = referencesFrom (place + 1) t := by
  have hnone : Pattern.first? Pattern.reference (c :: t) = none := by
    rw [first?_reference, h, Option.map_none]
  rw [referencesFrom, matchesFrom_cons hnone]
  rfl

lemma references_append (hn : isName name = true) (h : Opens name spelling rest) :
    referencesFrom place (spelling ++ rest) =
      (name, ⟨place, place + spelling.length⟩) ::
        referencesFrom (place + spelling.length) rest := by
  have hsome : Pattern.first? Pattern.reference (spelling ++ rest) = some (some name, rest) := by
    rw [first?_reference, at?_append hn h]
    simp
  rw [referencesFrom, matchesFrom_append hsome (ne_nil_of_spells h.1)]
  rfl

lemma found_cons (hn : isName name = true) (h : spelling? name (c :: t) = none) :
    matchesFrom (referenceTo name) place 0 (c :: t) =
      matchesFrom (referenceTo name) (place + 1) 0 t := by
  apply matchesFrom_cons
  rw [first?_referenceTo hn, h, Option.map_none]

lemma found_append (hn : isName name = true) (h : Opens name spelling rest) :
    matchesFrom (referenceTo name) place 0 (spelling ++ rest) =
      (none, ⟨place, place + spelling.length⟩) ::
        matchesFrom (referenceTo name) (place + spelling.length) 0 rest := by
  refine matchesFrom_append ?_ (ne_nil_of_spells h.1)
  rw [first?_referenceTo hn, spelling?_append hn h]
  simp

lemma found_append_of_not_dollar (hn : isName name = true) (hs : .char '$' ∉ s) :
    matchesFrom (referenceTo name) place 0 (s ++ rest) =
      matchesFrom (referenceTo name) (place + s.length) 0 rest := by
  induction s generalizing place with
  | nil => rfl
  | cons c s ih =>
    simp only [List.mem_cons, not_or] at hs
    have hnone : spelling? name (c :: (s ++ rest)) = none :=
      spelling?_of_none hn (at?_cons_of_ne (Ne.symm hs.1))
    rw [List.cons_append, found_cons hn hnone, ih hs.2, List.length_cons]
    congr 1
    omega

lemma found_append_of_ne (hn : isName name = true) (ho : isName other = true)
    (hne : other ≠ name) (h : Opens other spelling rest) :
    matchesFrom (referenceTo name) place 0 (spelling ++ rest) =
      matchesFrom (referenceTo name) (place + spelling.length) 0 rest := by
  have hs := spelling?_of_ne hn ho hne h
  obtain ⟨inner, rfl⟩ := spelling_eq_cons h.1
  rw [List.cons_append] at hs ⊢
  rw [found_cons hn hs, found_append_of_not_dollar hn (not_dollar_tail ho h.1), List.length_cons]
  congr 1
  omega

lemma found_eq_filter (hn : isName name = true) (place : ℕ) (t : Text) :
    (matchesFrom (referenceTo name) place 0 t).map Prod.snd =
      ((referencesFrom place t).filter fun x => decide (x.1 = name)).map Prod.snd := by
  induction t using pieces_induction generalizing place with
  | nil => rfl
  | plain c t ha ih => rw [found_cons hn (spelling?_of_none hn ha), references_cons ha, ih]
  | reference other spelling rest ho h ih =>
    rw [references_append ho h, List.filter_cons]
    by_cases he : other = name
    · subst he
      rw [found_append hn h]
      simp [ih]
    · rw [found_append_of_ne hn ho he h]
      simp [he, ih]

lemma eq_of_overlap {before left behind : Text} {c : CodePoint} (hs : Spells name spelling)
    (hn : isName other = true) (ho : Spells other (before ++ c :: left))
    (h : spelling ++ rest = c :: left ++ behind) : before = [] := by
  obtain ⟨inner, rfl⟩ := spelling_eq_cons hs
  obtain rfl := (List.cons.inj h).1
  cases before with
  | nil => rfl
  | cons b before =>
    obtain ⟨inner, hi⟩ := spelling_eq_cons ho
    obtain ⟨rfl, rfl⟩ := List.cons.inj hi
    exact absurd (List.mem_append_right before List.mem_cons_self) (not_dollar_tail hn ho)

lemma mem_references_of_opens (place : ℕ) {before : Text} (hn : isName name = true)
    (h : Opens name spelling rest) (ht : t = before ++ (spelling ++ rest)) :
    (name, ⟨place + before.length, place + before.length + spelling.length⟩) ∈
      referencesFrom place t := by
  induction t using pieces_induction generalizing place before with
  | nil => simp [ne_nil_of_spells h.1] at ht
  | plain c t ha ih =>
    cases before with
    | nil =>
      rw [ht, List.nil_append, at?_append hn h] at ha
      cases ha
    | cons b before =>
      have hmem := ih (place + 1) (List.cons.inj ht).2
      rwa [references_cons ha, List.length_cons, Nat.add_comm before.length 1, ← Nat.add_assoc]
  | reference other outer behind ho hb ih =>
    have hbehind (gap : Text) (hgap : behind = gap ++ (spelling ++ rest)) :
        (name, ⟨place + (outer ++ gap).length, place + (outer ++ gap).length + spelling.length⟩) ∈
          referencesFrom place (outer ++ behind) := by
      have hmem := ih (place + outer.length) hgap
      rw [references_append ho hb, List.length_append, ← Nat.add_assoc]
      exact List.mem_cons_of_mem _ hmem
    rcases List.append_eq_append_iff.mp ht with ⟨gap, rfl, hgap⟩ | ⟨left, rfl, hleft⟩
    · exact hbehind gap hgap
    · cases left with
      | nil => simpa using hbehind [] hleft.symm
      | cons c left =>
        obtain rfl := eq_of_overlap h.1 ho hb.1 hleft
        have hat := at?_append hn h
        rw [hleft] at hat
        obtain ⟨rfl, hlength⟩ := Prod.mk.inj (Option.some.inj ((at?_append ho hb).symm.trans hat))
        rw [references_append ho hb, hlength]
        exact List.mem_cons_self

lemma mem_references_iff : (name, x) ∈ referencesFrom place t ↔
    ∃ before spelling rest, t = before ++ (spelling ++ rest) ∧ isName name = true ∧
      Opens name spelling rest ∧
      x = ⟨place + before.length, place + before.length + spelling.length⟩ := by
  constructor
  · intro h
    induction t using pieces_induction generalizing place with
    | nil => cases h
    | plain c t ha ih =>
      rw [references_cons ha] at h
      obtain ⟨before, spelling, rest, rfl, hn, ho, rfl⟩ := ih h
      refine ⟨c :: before, spelling, rest, rfl, hn, ho, ?_⟩
      rw [List.length_cons, Nat.add_comm before.length 1, ← Nat.add_assoc]
    | reference other outer behind ho hb ih =>
      rw [references_append ho hb] at h
      rcases List.mem_cons.mp h with he | h
      · obtain ⟨rfl, rfl⟩ := Prod.mk.inj he
        exact ⟨[], outer, behind, rfl, ho, hb, rfl⟩
      · obtain ⟨before, spelling, rest, rfl, hn, ho, rfl⟩ := ih h
        refine ⟨outer ++ before, spelling, rest, (List.append_assoc ..).symm, hn, ho, ?_⟩
        rw [List.length_append, ← Nat.add_assoc]
  · rintro ⟨before, spelling, rest, ht, hn, ho, rfl⟩
    exact mem_references_of_opens place hn ho ht

lemma pairwise_references (place : ℕ) (t : Text) :
    (referencesFrom place t).Pairwise fun x y => x.2.stop ≤ y.2.start := by
  refine List.Pairwise.filterMap _ ?_ (Pattern.pairwise_matchesFrom Pattern.reference place 0 t)
  rintro x y hxy _ hx _ hy
  obtain ⟨n, -, rfl⟩ := Option.map_eq_some_iff.mp hx
  obtain ⟨m, -, rfl⟩ := Option.map_eq_some_iff.mp hy
  exact hxy

lemma mem_spans (hn : isName name = true) :
    x ∈ spans (referenceTo name) t ↔ (name, x) ∈ references t := by
  have h := found_eq_filter hn 0 t
  change spans (referenceTo name) t = _ at h
  rw [h]
  simp [references]

lemma disjoint_references {n m : Text} {x y : Span} (hx : (n, x) ∈ references t)
    (hy : (m, y) ∈ references t) (hne : n ≠ m) : x.stop ≤ y.start ∨ y.stop ≤ x.start := by
  have hsymm : Std.Symm fun x y : Text × Span => x.2.stop ≤ y.2.start ∨ y.2.stop ≤ x.2.start :=
    ⟨fun _ _ h => h.symm⟩
  have hpair : (references t).Pairwise fun x y =>
      x.2.stop ≤ y.2.start ∨ y.2.stop ≤ x.2.start :=
    (pairwise_references 0 t).imp fun h => .inl h
  exact hpair.forall hx hy fun he => hne (Prod.mk.inj he).1

lemma map_fst_references (place : ℕ) (t : Text) :
    (referencesFrom place t).map Prod.fst = (pieces t).filterMap Piece.name? := by
  induction t using pieces_induction generalizing place with
  | nil => rfl
  | plain c t ha ih =>
    rw [references_cons ha, pieces_cons ha, ih]
    rfl
  | reference other spelling rest ho h ih =>
    rw [references_append ho h, pieces_append ho h, List.map_cons, ih]
    rfl

lemma pairwise_eraseDups {l : List (Text × Span)} {R : Span → Span → Prop}
    (h : l.Pairwise fun x y => R x.2 y.2) :
    ((l.map Prod.fst).eraseDups).Pairwise fun n m =>
      n ≠ m ∧ ∀ y, (m, y) ∈ l → ∃ x, (n, x) ∈ l ∧ R x y := by
  induction hk : l.length using Nat.strong_induction_on generalizing l with
  | h k ih =>
    cases l with
    | nil => exact .nil
    | cons e l =>
      obtain ⟨n₀, x₀⟩ := e
      obtain ⟨hfirst, hl⟩ := List.pairwise_cons.mp h
      let others := l.filter fun x => !x.1 == n₀
      have hothers : (l.map Prod.fst).filter (fun n => !n == n₀) = others.map Prod.fst := by
        rw [List.filter_map]
        rfl
      have hne (m : Text) (hm : m ∈ (others.map Prod.fst).eraseDups) : m ≠ n₀ := by
        rw [List.mem_eraseDups, ← hothers] at hm
        simpa using (List.mem_filter.mp hm).2
      have hmem (m : Text) (hm : m ∈ (others.map Prod.fst).eraseDups) (y : Span) :
          (m, y) ∈ (n₀, x₀) :: l ↔ (m, y) ∈ others := by
        simp [others, hne m hm]
      have hshort : others.length < k := by
        rw [← hk, List.length_cons, Nat.lt_succ_iff]
        exact List.length_filter_le _ l
      rw [List.map_cons, List.eraseDups_cons, hothers]
      refine .cons (fun m hm => ⟨(hne m hm).symm, fun y hy => ⟨x₀, List.mem_cons_self, ?_⟩⟩) ?_
      · exact hfirst (m, y) (List.mem_of_mem_filter ((hmem m hm y).mp hy))
      · refine (ih _ hshort (hl.filter _) rfl).imp_of_mem fun hn hm h => ⟨h.1, fun y hy => ?_⟩
        obtain ⟨x, hx, hxy⟩ := h.2 y ((hmem _ hm y).mp hy)
        exact ⟨x, (hmem _ hn x).mpr hx, hxy⟩

lemma fillFrom_append (replacement : Text) (place : ℕ) (s t : Text) {xs : List Span}
    (h : ∀ x ∈ xs, place + s.length ≤ x.start ∧ x.start ≤ x.stop) :
    Span.fillFrom replacement place xs (s ++ t) =
      s ++ Span.fillFrom replacement (place + s.length) xs t := by
  cases xs with
  | nil => rfl
  | cons x xs =>
    obtain ⟨hstart, hstop⟩ := h x List.mem_cons_self
    have htake : x.start - place - s.length = x.start - (place + s.length) := by omega
    have hdrop : x.stop - place - s.length = x.stop - (place + s.length) := by omega
    rw [Span.fillFrom, Span.fillFrom, List.take_append, List.drop_append, htake, hdrop,
      List.take_of_length_le (by omega), List.drop_of_length_le (by omega)]
    simp

lemma replace_eq_fillFrom (hn : isName name = true) (replacement : Text) (place : ℕ) (t : Text) :
    replace name replacement t = Span.fillFrom replacement place
      ((matchesFrom (referenceTo name) place 0 t).map Prod.snd) t := by
  have hbound (place : ℕ) (t : Text) :
      ∀ x ∈ (matchesFrom (referenceTo name) place 0 t).map Prod.snd,
        place ≤ x.start ∧ x.start ≤ x.stop := by
    rintro x hx
    obtain ⟨y, hy, rfl⟩ := List.mem_map.mp hx
    exact Pattern.le_of_mem_matchesFrom hy
  induction t using pieces_induction generalizing place with
  | nil => rfl
  | plain c t ha ih =>
    have hfill := fillFrom_append replacement place [c] t (hbound (place + 1) t)
    rw [replace_cons hn replacement ha, found_cons hn (spelling?_of_none hn ha), ih (place + 1)]
    exact hfill.symm
  | reference other spelling rest ho h ih =>
    by_cases he : other = name
    · subst he
      rw [replace_append hn replacement h, found_append hn h, ih (place + spelling.length)]
      simp [Span.fillFrom]
    · rw [replace_append_of_ne hn replacement ho he h, found_append_of_ne hn ho he h,
        fillFrom_append _ _ _ _ (hbound (place + spelling.length) rest),
        ih (place + spelling.length)]

lemma names_eq (t : Text) : names t = ((references t).map Prod.fst).eraseDups := by
  rw [references, map_fst_references, names]

/-- Finding the references of a text and replacing one name in it agree. -/
structure Agreement (name t : Text) : Prop where
  spans_eq : spans (referenceTo name) t =
    ((references t).filter fun x => decide (x.1 = name)).map Prod.snd
  replaced : ∀ replacement, replace name replacement t =
    Span.fillFrom replacement 0 (spans (referenceTo name) t) t
  mem_names : name ∈ names t ↔ spans (referenceTo name) t ≠ []
  distinct : (names t).Nodup
  ordered : (names t).Pairwise fun n m =>
    ∀ y, (m, y) ∈ references t → ∃ x, (n, x) ∈ references t ∧ x.stop ≤ y.start
  disjoint : ∀ other, isName other = true → other ≠ name → ∀ x ∈ spans (referenceTo name) t,
    ∀ y ∈ spans (referenceTo other) t, x.stop ≤ y.start ∨ y.stop ≤ x.start
  longer_untouched : ∀ before longer rest, isName longer = true → name <+: longer →
    name ≠ longer → t = before ++ (bare longer ++ rest) → Ends rest →
    ∀ x ∈ spans (referenceTo name) t,
      x.stop ≤ before.length ∨ before.length + (bare longer).length ≤ x.start

theorem spans_agree (name t : Text) (hn : isName name = true) : Agreement name t := by
  have horder := pairwise_eraseDups (R := fun x y => x.stop ≤ y.start) (pairwise_references 0 t)
  refine ⟨found_eq_filter hn 0 t, fun replacement => replace_eq_fillFrom hn replacement 0 t, ?_,
    ?_, ?_, ?_, ?_⟩
  · rw [names_eq, List.mem_eraseDups, List.mem_map]
    constructor
    · rintro ⟨⟨n, x⟩, hx, rfl⟩
      exact List.ne_nil_of_mem ((mem_spans hn).mpr hx)
    · intro h
      obtain ⟨x, hx⟩ := List.exists_mem_of_ne_nil _ h
      exact ⟨(name, x), (mem_spans hn).mp hx, rfl⟩
  · rw [names_eq]
    exact horder.imp fun h => h.1
  · rw [names_eq]
    exact horder.imp fun h => h.2
  · intro other ho hne x hx y hy
    exact disjoint_references ((mem_spans hn).mp hx) ((mem_spans ho).mp hy) hne.symm
  · intro before longer rest hl _ hne ht he x hx
    have hopens : Opens longer (bare longer) rest := ⟨.bare, fun _ => he⟩
    have hmem : (longer, ⟨before.length, before.length + (bare longer).length⟩) ∈ references t :=
      mem_references_iff.mpr ⟨before, bare longer, rest, ht, hl, hopens, by simp⟩
    exact disjoint_references ((mem_spans hn).mp hx) hmem hne

theorem spans_agree_unclosed :
    let ab := Text.ofChars ['A', 'B']
    let t := Text.ofChars ['$', '$', 'A', 'B', '$', 'A', 'B', 'C', '$', '{', ' ', 'A', 'B', ' ',
      '$', '{', 'A', 'B', '}']
    spans (referenceTo ab) t = [⟨1, 4⟩, ⟨14, 19⟩] ∧ isName ab = true ∧ Agreement ab t := by
  intro ab t
  have hspans : spans (referenceTo ab) t = [⟨1, 4⟩, ⟨14, 19⟩] := by decide +kernel
  exact ⟨hspans, by decide, spans_agree ab t (by decide)⟩

end Reference

end PropertyFile
