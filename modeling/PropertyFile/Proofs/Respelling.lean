import PropertyFile.Proofs.Outcome

/-! Writing all bare references in braces, which are met whatever stands behind them. -/

namespace PropertyFile.Reference

def Piece.respelled : Piece → Piece
  | .plain c => .plain c
  | .reference name spelling =>
    .reference name (if spelling = bare name then braced name [] [] else spelling)

def written (ps : List Piece) : Text := ps.flatMap Piece.text

def respelled (v : Text) : Text := written ((pieces v).map Piece.respelled)

def Spelled (ps : List Piece) : Prop :=
  ∀ name spelling, .reference name spelling ∈ ps → isName name = true ∧ Spells name spelling

structure Respells (f : Piece → Piece) : Prop where
  plain : ∀ c, f (.plain c) = .plain c
  reference : ∀ name spelling, isName name = true → Spells name spelling →
    ∃ spelling', f (.reference name spelling) = .reference name spelling' ∧
      Spells name spelling' ∧ (spelling' = bare name → spelling = bare name)

variable {f : Piece → Piece} {ps qs : List Piece} {name spelling inner rest : Text} {c : CodePoint}
  {k : Text} {l : ℕ}

lemma respells_id : Respells id := ⟨fun _ => rfl, fun _ s _ h => ⟨s, rfl, h, fun hb => hb⟩⟩

lemma respells_respelled : Respells Piece.respelled := by
  refine ⟨fun _ => rfl, fun n s hn h => ⟨_, rfl, ?_⟩⟩
  split
  · rename_i hb
    exact ⟨.braced rfl rfl, fun _ => hb⟩
  · exact ⟨h, fun hb => hb⟩

lemma spelled_cons {p : Piece} (h : Spelled (p :: ps)) : Spelled ps :=
  fun n s hm => h n s (List.mem_cons_of_mem _ hm)

lemma spelled_pieces (v : Text) : Spelled (pieces v) := fun _ _ h => isName_of_mem_pieces h

lemma written_plains_append (hf : Respells f) (t : Text) (ps : List Piece) :
    written ((t.map Piece.plain ++ ps).map f) = t ++ written (ps.map f) := by
  induction t with
  | nil => rfl
  | cons c t ih =>
    rw [List.map_cons, List.cons_append, List.map_cons, hf.plain]
    exact congrArg (c :: ·) ih

lemma head?_written (hf : Respells f) (hps : Spelled ps) :
    (written (ps.map f)).head? = (written ps).head? := by
  cases ps with
  | nil => rfl
  | cons p ps =>
    cases p with
    | plain c =>
      rw [List.map_cons, hf.plain]
      rfl
    | reference n s =>
      obtain ⟨hn, hs⟩ := hps n s List.mem_cons_self
      obtain ⟨s', hs', h', -⟩ := hf.reference n s hn hs
      obtain ⟨t, rfl⟩ := spelling_eq_cons hs
      obtain ⟨t', rfl⟩ := spelling_eq_cons h'
      rw [List.map_cons, hs']
      rfl

lemma ends_written (hf : Respells f) (hps : Spelled ps) :
    Ends (written (ps.map f)) ↔ Ends (written ps) := by
  rw [Ends, Ends, head?_written hf hps]

lemma exists_of_written (hf : Respells f) (hps : Spelled ps) (hi : .char '$' ∉ inner)
    (h : written (ps.map f) = inner ++ rest) :
    ∃ qs, ps = inner.map .plain ++ qs ∧ rest = written (qs.map f) := by
  induction inner generalizing ps with
  | nil => exact ⟨ps, rfl, h.symm⟩
  | cons c inner ih =>
    rw [List.mem_cons, not_or] at hi
    cases ps with
    | nil => cases h
    | cons p ps =>
      cases p with
      | plain d =>
        rw [List.map_cons, hf.plain] at h
        obtain ⟨rfl, ht⟩ := List.cons.inj h
        obtain ⟨qs, rfl, hr⟩ := ih (spelled_cons hps) hi.2 ht
        exact ⟨qs, rfl, hr⟩
      | reference n s =>
        obtain ⟨hn, hs⟩ := hps n s List.mem_cons_self
        obtain ⟨s', hs', h', -⟩ := hf.reference n s hn hs
        obtain ⟨t, rfl⟩ := spelling_eq_cons h'
        rw [List.map_cons, hs'] at h
        exact absurd (List.cons.inj h).1 hi.1

lemma spelling?_written_iff (hf : Respells f) (hps : Spelled ps) (hk : isName k = true) :
    spelling? k (c :: written (ps.map f)) = some l ↔
      ∃ inner qs, ps = inner.map .plain ++ qs ∧ l = inner.length + 1 ∧
        Opens k (c :: inner) (written qs) := by
  have hends {inner : Text} {qs : List Piece} (h : ps = inner.map .plain ++ qs) :
      Ends (written (qs.map f)) ↔ Ends (written qs) := by
    apply ends_written hf
    exact fun n s hm => hps n s (by rw [h]; exact List.mem_append_right _ hm)
  constructor
  · intro h
    obtain ⟨spelling, rest, ht, hl, ho⟩ := exists_of_spelling? hk h
    obtain ⟨inner, rfl⟩ := spelling_eq_cons ho.1
    obtain ⟨rfl, hw⟩ := List.cons.inj ht
    obtain ⟨qs, hqs, rfl⟩ := exists_of_written hf hps (not_dollar_tail hk ho.1) hw
    exact ⟨inner, qs, hqs, hl.symm, ho.1, fun hb => (hends hqs).mp (ho.2 hb)⟩
  · rintro ⟨inner, qs, hqs, rfl, hs, hb⟩
    have ho : Opens k (c :: inner) (written (qs.map f)) := ⟨hs, fun h => (hends hqs).mpr (hb h)⟩
    rw [hqs, written_plains_append hf]
    exact spelling?_append hk ho

lemma spelling?_written (hf : Respells f) (hps : Spelled ps) (hk : isName k = true) :
    spelling? k (c :: written (ps.map f)) = spelling? k (c :: written ps) := by
  apply Option.ext
  intro l
  have hid := spelling?_written_iff (c := c) (l := l) respells_id hps hk
  rw [List.map_id] at hid
  exact (spelling?_written_iff hf hps hk).trans hid.symm

lemma at?_written (hf : Respells f) (hps : Spelled ps) :
    at? (c :: written (ps.map f)) = none ↔ at? (c :: written ps) = none := by
  have hfound (t : Text) : at? t ≠ none ↔ ∃ n l, isName n = true ∧ spelling? n t = some l := by
    constructor
    · intro h
      obtain ⟨⟨n, l⟩, hx⟩ := Option.ne_none_iff_exists'.mp h
      have hn := (exists_of_at? hx).1
      exact ⟨n, l, hn, (spelling?_eq_some_iff hn).mpr hx⟩
    · rintro ⟨n, l, hn, hl⟩
      rw [(spelling?_eq_some_iff hn).mp hl]
      exact Option.some_ne_none _
  rw [← not_iff_not, ← ne_eq, ← ne_eq, hfound, hfound]
  refine exists_congr fun n => exists_congr fun l => and_congr_right fun hn => ?_
  rw [spelling?_written hf hps hn]

lemma pieces_written (hf : Respells f) (v : Text) :
    pieces (written ((pieces v).map f)) = (pieces v).map f := by
  induction v using pieces_induction with
  | nil => rfl
  | plain c t ha ih =>
    have hnone : at? (c :: written ((pieces t).map f)) = none := by
      apply (at?_written hf (spelled_pieces t)).mpr
      rwa [written, text_pieces]
    rw [pieces_cons ha, List.map_cons, hf.plain]
    exact (pieces_cons hnone).trans (congrArg _ ih)
  | reference name spelling rest hn ho ih =>
    obtain ⟨s', hs', h', hb⟩ := hf.reference name spelling hn ho.1
    have ho' : Opens name s' (written ((pieces rest).map f)) := by
      refine ⟨h', fun he => (ends_written hf (spelled_pieces rest)).mpr ?_⟩
      rw [written, text_pieces]
      exact ho.2 (hb he)
    rw [pieces_append hn ho, List.map_cons, hs']
    exact (pieces_append hn ho').trans (congrArg _ ih)

lemma names_respelled (v : Text) : names (respelled v) = names v := by
  have hname : Piece.name? ∘ Piece.respelled = Piece.name? := by
    funext p
    cases p <;> rfl
  rw [names, respelled, pieces_written respells_respelled, List.filterMap_map, hname, names]

section Standing

def Stays (ns : List Text) (name : Text) : Piece → Prop
  | .plain c => isNameChar c = false ∧ c ≠ .char '$'
  | .reference other _ => ns.idxOf name ≤ ns.idxOf other

inductive Standing (ns : List Text) : List Piece → Prop
  | nil : Standing ns []
  | plain {c : CodePoint} {ps : List Piece} : Standing ns ps → Standing ns (.plain c :: ps)
  | reference {name spelling : Text} {ps : List Piece} : isName name = true →
    Spells name spelling → name ∈ ns →
    (spelling = bare name → ∀ p ∈ ps.head?, Stays ns name p) → Standing ns ps →
    Standing ns (.reference name spelling :: ps)

variable {ns : List Text}

lemma Standing.spelled (h : Standing ns ps) : Spelled ps := by
  induction h with
  | nil => simp [Spelled]
  | plain _ ih => exact fun n s hm => ih n s (by simpa using hm)
  | reference hn hs _ _ _ ih =>
    intro n s hm
    rcases List.mem_cons.mp hm with he | hm
    · obtain ⟨rfl, rfl⟩ := Piece.reference.inj he
      exact ⟨hn, hs⟩
    · exact ih n s hm

lemma Standing.plains (t : Text) (h : Standing ns ps) : Standing ns (t.map .plain ++ ps) := by
  induction t with
  | nil => exact h
  | cons c t ih => exact .plain ih

lemma Standing.of_plains {t : Text} (h : Standing ns (t.map .plain ++ ps)) : Standing ns ps := by
  induction t with
  | nil => exact h
  | cons c t ih =>
    cases h with
    | plain h => exact ih h

lemma map_of_standing_nil (hf : Respells f) (h : Standing [] ps) : ps.map f = ps := by
  induction h with
  | nil => rfl
  | plain _ ih => rw [List.map_cons, hf.plain, ih]
  | reference _ _ hm => cases hm

lemma opens_written (hf : Respells f) (hs : Spells name spelling) (hps : Spelled ps)
    (h : spelling = bare name → ∀ p ∈ ps.head?, Stays ns name p) :
    Opens name spelling (written (ps.map f)) := by
  refine ⟨hs, fun hb => (ends_written hf hps).mpr ?_⟩
  cases ps with
  | nil => exact ends_nil
  | cons p ps =>
    cases p with
    | plain c => exact ends_cons.mpr (h hb _ rfl).1
    | reference n s =>
      obtain ⟨t, rfl⟩ := spelling_eq_cons (hps n s List.mem_cons_self).2
      exact ends_cons.mpr (by decide)

lemma stays_tail {p : Piece} (hne : name ≠ k) (h : Stays (k :: ns) name p) : Stays ns name p := by
  cases p with
  | plain c => exact h
  | reference other s =>
    have hother : other ≠ k := by
      rintro rfl
      rw [Stays, List.idxOf_cons_self, List.idxOf_cons_ne ns hne.symm] at h
      omega
    rw [Stays, List.idxOf_cons_ne ns hne.symm, List.idxOf_cons_ne ns hother.symm] at h
    exact Nat.le_of_succ_le_succ h

lemma replace_cons_of_none {r t : Text} (h : spelling? k (c :: t) = none) :
    replace k r (c :: t) = c :: replace k r t := by
  simp [replace, replaceFrom, h]

lemma Standing.exists_replace (hk : isName k = true) (r : Text) (h : Standing (k :: ns) ps) :
    ∃ qs, Standing ns qs ∧
      (∀ f, Respells f → replace k r (written (ps.map f)) = written (qs.map f)) ∧
      ∀ name, name ≠ k → (∀ p ∈ ps.head?, Stays (k :: ns) name p) →
        ∀ p ∈ qs.head?, Stays ns name p := by
  induction hl : ps.length using Nat.strong_induction_on generalizing ps with
  | h l ih =>
    cases h with
    | nil => exact ⟨[], .nil, fun _ _ => rfl, by simp⟩
    | @plain c ps h =>
      by_cases hnone : spelling? k (c :: written ps) = none
      · obtain ⟨qs, hqs, hw, -⟩ := ih ps.length (by simp [← hl]) h rfl
        refine ⟨.plain c :: qs, .plain hqs, fun f hf => ?_, ?_⟩
        · have hnone' : spelling? k (c :: written (ps.map f)) = none := by
            rw [spelling?_written hf h.spelled hk, hnone]
          rw [List.map_cons, List.map_cons, hf.plain]
          exact (replace_cons_of_none hnone').trans (congrArg (c :: ·) (hw f hf))
        · rintro name - hs p ⟨⟩
          exact hs (.plain c) rfl
      · -- plain text that has come to spell the name ends before any reference
        obtain ⟨m, hm⟩ := Option.ne_none_iff_exists'.mp hnone
        have hid := spelling?_written_iff (c := c) (l := m) respells_id h.spelled hk
        rw [List.map_id] at hid
        obtain ⟨inner, ps', rfl, -, ho⟩ := hid.mp hm
        obtain ⟨qs, hqs, hw, -⟩ := ih ps'.length (by simp [← hl]) h.of_plains rfl
        refine ⟨r.map .plain ++ qs, hqs.plains r, fun f hf => ?_, ?_⟩
        · have ho' : Opens k (c :: inner) (written (ps'.map f)) :=
            ⟨ho.1, fun hb => (ends_written hf h.of_plains.spelled).mpr (ho.2 hb)⟩
          have ht := written_plains_append hf (c :: inner) ps'
          rw [List.map_cons, List.cons_append] at ht
          rw [ht, replace_append hk r ho', hw f hf, written_plains_append hf]
        · obtain ⟨t, ht⟩ := spelling_eq_cons ho.1
          rintro name - hs
          exact absurd (List.cons.inj ht).1 (hs (.plain c) rfl).2
    | @reference name spelling ps hn hs hmem hstay h =>
      obtain ⟨qs, hqs, hw, hstays⟩ := ih ps.length (by simp [← hl]) h rfl
      have hopens {f : Piece → Piece} (hf : Respells f) :
          ∃ s', f (.reference name spelling) = .reference name s' ∧
            Opens name s' (written (ps.map f)) := by
        obtain ⟨s', hs', h', hb⟩ := hf.reference name spelling hn hs
        exact ⟨s', hs', opens_written hf h' h.spelled fun he => hstay (hb he)⟩
      by_cases hne : name = k
      · subst hne
        refine ⟨r.map .plain ++ qs, hqs.plains r, fun f hf => ?_, ?_⟩
        · obtain ⟨s', hs', ho⟩ := hopens hf
          rw [List.map_cons, hs', written_plains_append hf, ← hw f hf]
          exact replace_append hk r ho
        · intro other hother hst
          have hle : (name :: ns).idxOf other ≤ (name :: ns).idxOf name := hst _ rfl
          rw [List.idxOf_cons_self, List.idxOf_cons_ne ns hother.symm] at hle
          omega
      · have hmem' : name ∈ ns := (List.mem_cons.mp hmem).resolve_left hne
        refine ⟨.reference name spelling :: qs,
          .reference hn hs hmem' (fun hb => hstays name hne (hstay hb)) hqs, fun f hf => ?_, ?_⟩
        · obtain ⟨s', hs', ho⟩ := hopens hf
          rw [List.map_cons, List.map_cons, hs']
          exact (replace_append_of_ne hk r hn hne ho).trans (congrArg (s' ++ ·) (hw f hf))
        · rintro other hother hst p ⟨⟩
          exact stays_tail hother (hst _ rfl)

/-- Whatever stands behind a bare reference keeps its name from going on. -/
def Undisturbed (ns : List Text) : List Piece → Prop
  | [] => True
  | .plain _ :: ps => Undisturbed ns ps
  | .reference name spelling :: ps =>
    (spelling = bare name → ∀ p ∈ ps.head?, Stays ns name p) ∧ Undisturbed ns ps

lemma standing_of_undisturbed (hps : Spelled ps) (hm : ∀ n s, .reference n s ∈ ps → n ∈ ns)
    (h : Undisturbed ns ps) : Standing ns ps := by
  induction ps with
  | nil => exact .nil
  | cons p ps ih =>
    have hm' : ∀ n s, .reference n s ∈ ps → n ∈ ns :=
      fun n s hmem => hm n s (List.mem_cons_of_mem _ hmem)
    cases p with
    | plain c => exact .plain (ih (spelled_cons hps) hm' h)
    | reference n s =>
      obtain ⟨hn, hs⟩ := hps n s List.mem_cons_self
      exact .reference hn hs (hm n s List.mem_cons_self) h.1 (ih (spelled_cons hps) hm' h.2)

end Standing

end PropertyFile.Reference

namespace PropertyFile.Resolution

open Reference

variable {stored : Index Text} {chain ns : List Text} {ps : List Piece}

lemma outcome_error_congr (t u : Text) (c : List Text) :
    (expand stored chain ns t).outcome = .error c ↔
      (expand stored chain ns u).outcome = .error c := by
  induction ns generalizing t u with
  | nil => simp [outcome_nil]
  | cons n ns ih =>
    by_cases hn : n ∈ chain
    · rw [outcome_cons_of_mem hn, outcome_cons_of_mem hn]
    · rw [outcome_cons hn, outcome_cons hn]
      cases value stored chain n with
      | error c => rfl
      | ok r => exact ih _ _

lemma outcome_written (stored : Index Text) (chain : List Text) {f : Piece → Piece}
    (hf : Respells f) (hn : ∀ n ∈ ns, isName n = true) (h : Standing ns ps) :
    (expand stored chain ns (written (ps.map f))).outcome =
      (expand stored chain ns (written ps)).outcome := by
  induction ns generalizing ps with
  | nil => rw [map_of_standing_nil hf h]
  | cons n ns ih =>
    rw [List.forall_mem_cons] at hn
    by_cases hc : n ∈ chain
    · rw [outcome_cons_of_mem hc, outcome_cons_of_mem hc]
    · rw [outcome_cons hc, outcome_cons hc]
      cases value stored chain n with
      | error c => rfl
      | ok r =>
        obtain ⟨qs, hqs, hw, -⟩ := h.exists_replace hn.1 r
        have hid := hw id respells_id
        rw [List.map_id, List.map_id] at hid
        change (expand stored chain ns (replace n r (written (ps.map f)))).outcome =
          (expand stored chain ns (replace n r (written ps))).outcome
        rw [hw f hf, hid]
        exact ih hn.2 hqs

theorem resolve_respelled (stored : Index Text) (origin : Option Text) (v : Text) :
    (∀ c, (resolve stored origin (respelled v)).outcome = .error c ↔
      (resolve stored origin v).outcome = .error c) ∧
    (Undisturbed (names v) (pieces v) →
      (resolve stored origin (respelled v)).outcome = (resolve stored origin v).outcome) := by
  rw [resolve, resolve, names_respelled]
  refine ⟨outcome_error_congr _ _, fun h => ?_⟩
  have hm : ∀ n s, .reference n s ∈ pieces v → n ∈ names v := fun n s h => mem_names.mpr ⟨s, h⟩
  have hstanding := standing_of_undisturbed (spelled_pieces v) hm h
  have hw : written (pieces v) = v := text_pieces v
  have hout := outcome_written stored (origin.toList.filter (!·.isEmpty)) respells_respelled
    (fun n hn => isName_of_mem_names hn) hstanding
  rwa [hw] at hout

theorem resolve_respelled_adjacent :
    let stored : Index Text :=
      [(Text.ofChars ['A', 'B'], Text.ofChars ['X']),
        (Text.ofChars ['C', 'D'], Text.ofChars ['$', 'A', 'B'])]
    let v := Text.ofChars ['$', 'A', 'B', '$', 'C', 'D']
    Undisturbed (names v) (pieces v) ∧
      (∀ c, (resolve stored none (respelled v)).outcome = .error c ↔
        (resolve stored none v).outcome = .error c) ∧
      (resolve stored none (respelled v)).outcome = (resolve stored none v).outcome := by
  intro stored v
  have hp : pieces v = [.reference (Text.ofChars ['A', 'B']) (Text.ofChars ['$', 'A', 'B']),
      .reference (Text.ofChars ['C', 'D']) (Text.ofChars ['$', 'C', 'D'])] := by decide
  have hn : names v = [Text.ofChars ['A', 'B'], Text.ofChars ['C', 'D']] := by decide
  have hv : Undisturbed (names v) (pieces v) := by
    rw [hp, hn]
    refine ⟨?_, by simp, trivial⟩
    rintro - p ⟨⟩
    rw [Stays]
    decide
  obtain ⟨herror, heq⟩ := resolve_respelled stored none v
  exact ⟨hv, herror, heq hv⟩

theorem respelled_differs :
    ¬ ∀ (stored : Index Text) (origin : Option Text) (v : Text),
      (resolve stored origin (respelled v)).outcome = (resolve stored origin v).outcome := by
  intro h
  let stored : Index Text :=
    [(Text.ofChars ['A', 'B'], Text.ofChars ['X']), (Text.ofChars ['C', 'D'], Text.ofChars ['Y'])]
  let v := Text.ofChars ['$', 'A', 'B', '$', 'C', 'D', '$', 'A', 'B']
  have hbare : (resolve stored none v).outcome = .ok (Text.ofChars ['X', '$', 'C', 'D', 'X']) := by
    cbv
  have hbraced : (resolve stored none (respelled v)).outcome =
      .ok (Text.ofChars ['X', 'Y', 'X']) := by
    cbv
  have heq := h stored none v
  rw [hbare, hbraced] at heq
  exact absurd (Except.ok.inj heq) (by decide)

end PropertyFile.Resolution
