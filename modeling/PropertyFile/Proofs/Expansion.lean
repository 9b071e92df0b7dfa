import PropertyFile.Proofs.Cycles
import PropertyFile.Proofs.Separation

/-! Resolving separated texts is expanding them in one pass. -/

namespace PropertyFile.Resolution

open Reference

/-- The expansion of all references at once: plain text stays, and a reference becomes the
expansion of its stored text, or nothing if there is none. -/
inductive Expands (stored : Index Text) : List Piece → Text → Prop
  | nil : Expands stored [] []
  | plain {c : CodePoint} {ps : List Piece} {x : Text} :
    Expands stored ps x → Expands stored (.plain c :: ps) (c :: x)
  | missing {name spelling : Text} {ps : List Piece} {x : Text} :
    stored.find? name = none → Expands stored ps x →
      Expands stored (.reference name spelling :: ps) x
  | stored {name spelling v r : Text} {ps : List Piece} {x : Text} :
    stored.find? name = some v → Expands stored (pieces v) r → Expands stored ps x →
      Expands stored (.reference name spelling :: ps) (r ++ x)

variable {stored : Index Text} {ps : List Piece} {v r x y : Text}

lemma Expands.unique (hx : Expands stored ps x) (hy : Expands stored ps y) : x = y := by
  induction hx generalizing y with
  | nil =>
    cases hy
    rfl
  | plain _ ih =>
    cases hy with
    | plain hy => rw [ih hy]
  | missing hf _ ih =>
    cases hy with
    | missing _ hy => exact ih hy
    | stored hf' _ _ => simp [hf] at hf'
  | stored hf _ _ ihv ih =>
    cases hy with
    | missing hf' _ => simp [hf] at hf'
    | stored hf' hv hy =>
      rw [hf] at hf'
      obtain rfl := Option.some.inj hf'
      rw [ihv hv, ih hy]

lemma expands_inert (h : Inert r) : Expands stored (pieces r) r := by
  rw [pieces_inert h]
  clear h
  induction r with
  | nil => exact .nil
  | cons c r ih => exact .plain ih

def Becomes (stored : Index Text) (name r : Text) : Prop :=
  (stored.find? name = none ∧ r = []) ∨
    ∃ w, stored.find? name = some w ∧ Expands stored (pieces w) r

lemma expands_fill {done : List Text} {ρ : Text → Text}
    (h : ∀ n s, .reference n s ∈ ps → n ∈ done ∧ Becomes stored n (ρ n)) :
    Expands stored ps (fill done ρ ps) := by
  induction ps with
  | nil => exact .nil
  | cons p ps ih =>
    have ht := ih fun n s hm => h n s (List.mem_cons_of_mem _ hm)
    cases p with
    | plain c => exact .plain ht
    | reference n s =>
      obtain ⟨hd, hb⟩ := h n s List.mem_cons_self
      simp only [fill, List.flatMap_cons, Piece.filled, hd, if_true] at ht ⊢
      rcases hb with ⟨hf, hr⟩ | ⟨w, hf, hr⟩
      · rw [hr]
        exact .missing hf ht
      · exact .stored hf hr ht

def Tidy (stored : Index Text) (v : Text) : Prop :=
  ∀ n w, Reaches stored v n → stored.find? n = some w → Separated (pieces w)

lemma Tidy.enter {n w : Text} (h : Tidy stored v) (hn : n ∈ names v)
    (hf : stored.find? n = some w) : Separated (pieces w) ∧ Tidy stored w := by
  refine ⟨h n w ⟨n, hn, .refl⟩ hf, fun k u hk hu => ?_⟩
  have ht := (reaches_of_leads hf).mp hk
  exact h k u ⟨n, hn, ht.to_reflTransGen⟩ hu

theorem expands_of_ok (chain : List Text) (v r : Text) (hv : Separated (pieces v))
    (ht : Tidy stored v) (h : (expand stored chain (names v) v).outcome = .ok r) :
    Expands stored (pieces v) r ∧ Inert r := by
  induction chain using chain_induction stored generalizing v r with
  | step chain ih =>
    obtain ⟨hns, hr⟩ := of_outcome_ok h
    have hname : ∀ n ∈ names v, Becomes stored n (replacement stored chain n) ∧
        Inert (replacement stored chain n) := by
      intro n hn
      obtain ⟨hc, hval⟩ := hns n hn
      cases hf : stored.find? n with
      | none =>
        rw [value_eq_replacement (value_of_none hf)]
        exact ⟨.inl ⟨hf, rfl⟩, trivial⟩
      | some w =>
        rw [value_of_some hf] at hval
        obtain ⟨hsep, htidy⟩ := ht.enter hn hf
        obtain ⟨hexp, hinert⟩ := ih n w hf hc w _ hsep htidy hval
        exact ⟨.inr ⟨w, hf, hexp⟩, hinert⟩
    have hset := settled_pieces hv
    have hfill : (names v).foldl (fun t n => replace n (replacement stored chain n) t)
        (fill [] (replacement stored chain) (pieces v)) =
          fill ((names v).reverse ++ []) (replacement stored chain) (pieces v) :=
      foldl_replace_fill (fun n hn => isName_of_mem_names hn) hset (fun n hn => (hname n hn).2)
        (by simp)
    rw [fill_nil, hr] at hfill
    have hmem : ∀ n s, .reference n s ∈ pieces v → n ∈ names v :=
      fun n s hm => mem_names.mpr ⟨s, hm⟩
    subst hfill
    refine ⟨expands_fill fun n s hm => ?_, inert_fill hset (fun n s hm => ?_) fun n hn => ?_⟩
    · exact ⟨by simpa using hmem n s hm, (hname n (hmem n s hm)).1⟩
    · simpa using hmem n s hm
    · exact (hname n (by simpa using hn)).2

lemma resolve_inert (stored : Index Text) (origin : Option Text) (h : Inert r) :
    (resolve stored origin r).outcome = .ok r := by
  rw [resolve, names_inert h, outcome_nil]

theorem resolve_ok_expands (stored : Index Text) (origin : Option Text) (v r : Text)
    (hv : Separated (pieces v))
    (ht : ∀ n w, Reaches stored v n → stored.find? n = some w → Separated (pieces w))
    (h : (resolve stored origin v).outcome = .ok r) :
    (∀ x, Expands stored (pieces v) x ↔ x = r) ∧ names r = [] ∧
      ∀ (stored' : Index Text) (origin' : Option Text),
        (resolve stored' origin' r).outcome = .ok r := by
  obtain ⟨hexp, hinert⟩ := expands_of_ok _ v r hv ht h
  refine ⟨fun x => ⟨fun hx => hx.unique hexp, ?_⟩, names_inert hinert,
    fun stored' origin' => resolve_inert stored' origin' hinert⟩
  rintro rfl
  exact hexp

theorem resolve_ok_expands_nested :
    let stored : Index Text :=
      [(Text.ofChars ['A', 'B'], Text.ofChars ['x', '$', '{', 'C', 'D', '}']),
        (Text.ofChars ['C', 'D'], Text.ofChars ['5', '$', '1'])]
    let v := Text.ofChars ['$', 'A', 'B', ' ', '$', '1']
    let r := Text.ofChars ['x', '5', '$', '1', ' ', '$', '1']
    (∀ x, Expands stored (pieces v) x ↔ x = r) ∧ names r = [] ∧
      ∀ (stored' : Index Text) (origin' : Option Text),
        (resolve stored' origin' r).outcome = .ok r := by
  intro stored v r
  have hv : pieces v = [.reference (Text.ofChars ['A', 'B']) (Text.ofChars ['$', 'A', 'B']),
      .plain ' ', .plain '$', .plain '1'] := by decide
  have ha : pieces (Text.ofChars ['x', '$', '{', 'C', 'D', '}']) =
      [.plain 'x', .reference (Text.ofChars ['C', 'D'])
        (Text.ofChars ['$', '{', 'C', 'D', '}'])] := by decide
  refine resolve_ok_expands stored none v r ?_ ?_ (by cbv)
  · have hdollar (u : Text) : at? (.char '$' :: .char '1' :: u) = none :=
      at?_dollar_of_not_initial (by decide) (by decide)
    simp [hv, Separated, literal, hdollar, Piece.name?]
  · intro n w _ hw
    simp only [stored, Index.find?] at hw
    split at hw
    · obtain rfl := Option.some.inj hw
      simp [ha, Separated, Piece.name?]
    · split at hw
      · obtain rfl := Option.some.inj hw
        exact separated_price
      · cases hw

end PropertyFile.Resolution
