import PropertyFile.Proofs.Trimming
import PropertyFile.Store.Typed

/-! There is one way to cut a text at a delimiter. -/

namespace PropertyFile

namespace Text

variable {d p t u : Text} {ps : List Text} {c : CodePoint}

/-- Behind `p` the delimiter occurs for the first time. -/
def Closes (d p : Text) : Prop := ∀ a b, p ++ d = a ++ (d ++ b) → p.length ≤ a.length

inductive Cut (d : Text) : Text → List Text → Prop
  | last {p : Text} : ¬ d <:+: p → Cut d p [p]
  | next {p t : Text} {ps : List Text} : Closes d p → Cut d t ps → Cut d (p ++ (d ++ t)) (p :: ps)

section Closing

lemma closes_nil : Closes d [] := fun _ _ _ => Nat.zero_le _

lemma closes_cons_iff : Closes d (c :: p) ↔ ¬ d <+: c :: (p ++ d) ∧ Closes d p := by
  constructor
  · intro h
    refine ⟨?_, fun a b hab => ?_⟩
    · rintro ⟨b, hb⟩
      have hlength := h [] b hb.symm
      simp at hlength
    · have hlength := h (c :: a) b (congrArg (c :: ·) hab)
      simpa using hlength
  · rintro ⟨hstart, h⟩ a b hab
    cases a with
    | nil => exact absurd ⟨b, hab.symm⟩ hstart
    | cons x a =>
      have hlength := h a b (List.cons.inj hab).2
      simpa using hlength

lemma closes_of_apart (hd : d ≠ []) (h : ∀ c ∈ p, c ∉ d) : Closes d p := by
  induction p with
  | nil => exact closes_nil
  | cons c p ih =>
    obtain ⟨hc, hp⟩ := List.forall_mem_cons.mp h
    refine closes_cons_iff.mpr ⟨fun hstart => hc ?_, ih hp⟩
    cases d with
    | nil => exact absurd rfl hd
    | cons x d =>
      obtain rfl := (List.cons_prefix_cons.mp hstart).1
      exact List.mem_cons_self

instance decidableCloses (d : Text) : (p : Text) → Decidable (Closes d p)
  | [] => isTrue closes_nil
  | _ :: p =>
    have := decidableCloses d p
    decidable_of_iff' _ closes_cons_iff

lemma Closes.absent (hd : d ≠ []) (h : Closes d p) : ¬ d <:+: p := by
  rintro ⟨a, b, rfl⟩
  have hlength := h a (b ++ d) (by simp)
  have hpos := List.length_pos_iff.mpr hd
  simp only [List.length_append] at hlength
  omega

lemma exists_closes (hd : d ≠ []) (t : Text) :
    ¬ d <:+: t ∨ ∃ p u, t = p ++ (d ++ u) ∧ Closes d p := by
  induction t with
  | nil => exact .inl fun h => hd (List.infix_nil.mp h)
  | cons c t ih =>
    by_cases hstart : d <+: c :: t
    · obtain ⟨u, hu⟩ := hstart
      exact .inr ⟨[], u, hu.symm, closes_nil⟩
    · rcases ih with hnone | ⟨p, u, rfl, h⟩
      · refine .inl fun hwithin => ?_
        exact (List.infix_cons_iff.mp hwithin).elim hstart hnone
      · refine .inr ⟨c :: p, u, rfl, closes_cons_iff.mpr ⟨fun hp => hstart (hp.trans ?_), h⟩⟩
        exact ⟨u, by simp⟩

end Closing

section Pieces

lemma pieces_cons_of_start (hd : d ≠ []) (h : d <+: c :: t) :
    pieces d (c :: t) = [] :: pieces d ((c :: t).drop d.length) := by
  obtain ⟨k, hk⟩ : ∃ k, d.length = k + 1 := Nat.exists_eq_succ_of_ne_zero (by simpa using hd)
  rw [pieces, piecesFrom, if_pos (List.isPrefixOf_iff_prefix.mpr h), piecesFrom_drop, hk]
  rfl

lemma pieces_cons_of_no_start (h : ¬ d <+: c :: t) :
    pieces d (c :: t) = pushFirst c (pieces d t) := by
  rw [pieces, piecesFrom, if_neg (List.isPrefixOf_iff_prefix.not.mpr h)]
  rfl

lemma pieces_append (hd : d ≠ []) (h : Closes d p) (t : Text) :
    pieces d (p ++ (d ++ t)) = p :: pieces d t := by
  induction p with
  | nil =>
    cases d with
    | nil => exact absurd rfl hd
    | cons c d =>
      have hstart : c :: d <+: c :: (d ++ t) := ⟨t, rfl⟩
      rw [List.nil_append, List.cons_append, pieces_cons_of_start hd hstart, ← List.cons_append,
        List.drop_left]
  | cons c p ih =>
    obtain ⟨hnot, h⟩ := closes_cons_iff.mp h
    have hlong : ¬ d <+: c :: (p ++ (d ++ t)) := by
      -- The delimiter is no longer than `p ++ d`, so it would already begin there.
      intro hstart
      have hfirst : c :: (p ++ d) <+: c :: (p ++ (d ++ t)) := ⟨t, by simp⟩
      exact hnot (List.prefix_of_prefix_length_le hstart hfirst (by simp; omega))
    rw [List.cons_append, pieces_cons_of_no_start hlong, ih h]
    rfl

lemma pieces_of_absent (h : ¬ d <:+: p) : pieces d p = [p] := by
  induction p with
  | nil => rfl
  | cons c p ih =>
    rw [List.infix_cons_iff, not_or] at h
    rw [pieces_cons_of_no_start h.1, ih h.2]
    rfl

lemma cut_pieces (hd : d ≠ []) (t : Text) : Cut d t (pieces d t) := by
  induction hk : t.length using Nat.strong_induction_on generalizing t with
  | h k ih =>
    rcases exists_closes hd t with hnone | ⟨p, u, rfl, h⟩
    · rw [pieces_of_absent hnone]
      exact .last hnone
    · have hpos := List.length_pos_iff.mpr hd
      simp only [List.length_append] at hk
      rw [pieces_append hd h]
      exact .next h (ih u.length (by omega) u rfl)

theorem pieces_eq_iff (hd : d ≠ []) : pieces d t = ps ↔ Cut d t ps := by
  constructor
  · rintro rfl
    exact cut_pieces hd t
  · intro h
    induction h with
    | last hnone => exact pieces_of_absent hnone
    | next hp _ ih => rw [pieces_append hd hp, ih]

end Pieces

namespace Cut

lemma absent (hd : d ≠ []) (h : Cut d t ps) : ∀ p ∈ ps, ¬ d <:+: p := by
  induction h with
  | last hnone => simpa using hnone
  | next hp _ ih => exact List.forall_mem_cons.mpr ⟨hp.absent hd, ih⟩

lemma joined_eq (h : Cut d t ps) : joined d ps = t := by
  induction h with
  | last => simp [joined]
  | next hp hcut ih =>
    cases hcut <;> simp_all [joined]

lemma of_closes (hd : d ≠ []) (hne : ps ≠ []) (h : ∀ p ∈ ps, Closes d p) :
    Cut d (joined d ps) ps := by
  induction ps with
  | nil => exact absurd rfl hne
  | cons p ps ih =>
    obtain ⟨hp, hps⟩ := List.forall_mem_cons.mp h
    cases ps with
    | nil => simpa [joined] using Cut.last (hp.absent hd)
    | cons q ps =>
      have hnext := Cut.next hp (ih (List.cons_ne_nil q ps) hps)
      simpa [joined] using hnext

lemma of_apart (hd : d ≠ []) (hne : ps ≠ []) (h : ∀ p ∈ ps, ∀ c ∈ p, c ∉ d) :
    Cut d (joined d ps) ps :=
  of_closes hd hne fun p hp => closes_of_apart hd (h p hp)

end Cut

lemma joined_cons (d p : Text) (ps : List Text) :
    joined d (p :: ps) = p ++ ps.flatMap (d ++ ·) := by
  induction ps generalizing p with
  | nil => simp [joined]
  | cons q ps ih =>
    rw [joined, List.intercalate_cons_cons, ← joined, ih, List.flatMap_cons]
    simp

lemma trim_within (t : Text) : trim t <:+: t := by
  rw [trim_eq_rdropWhile]
  exact (List.rdropWhile_prefix _ _).isInfix.trans (List.dropWhile_suffix _).isInfix

lemma fields_eq (d t : Text) : fields d t = ((pieces d t).filter fun p => !blank p).map trim := by
  have hkept : (fun f : Text => !f.isEmpty) ∘ trim = fun p => !blank p := by
    funext p
    have hiff : (trim p).isEmpty = blank p := by
      rw [Bool.eq_iff_iff, List.isEmpty_iff, trim_eq_nil_iff]
    simp [hiff]
  rw [fields, List.filter_map, hkept]

end Text

open Text (Closes Cut blank trim joined pieces_eq_iff)

lemma split_of_cut {d t : Text} {ps : List Text} (hd : d ≠ []) (h : Cut d t ps) :
    split d t = .ok ((ps.filter fun p => !blank p).map trim) := by
  have hempty : d.isEmpty = false := by simpa using hd
  rw [split, hempty, if_neg Bool.false_ne_true, Text.fields_eq, (pieces_eq_iff hd).mpr h]

theorem split_pieces (d : Text) (hd : d ≠ []) :
    (∀ t, ∃ ps, Cut d t ps ∧ (∀ qs, Cut d t qs → qs = ps) ∧ joined d ps = t ∧
      split d t = .ok ((ps.filter fun p => !blank p).map trim) ∧
      ∀ f ∈ (ps.filter fun p => !blank p).map trim, blank f = false ∧ trim f = f ∧ ¬ d <:+: f) ∧
    ∀ fs, (∀ f ∈ fs, blank f = false ∧ trim f = f ∧ Closes d f) →
      split d (joined d fs) = .ok fs := by
  refine ⟨fun t => ?_, fun fs h => ?_⟩
  · have hcut := Text.cut_pieces hd t
    refine ⟨Text.pieces d t, hcut, fun qs hqs => ?_, hcut.joined_eq, split_of_cut hd hcut, ?_⟩
    · exact ((pieces_eq_iff hd).mpr hqs).symm
    · intro f hf
      obtain ⟨p, hp, rfl⟩ := List.mem_map.mp hf
      obtain ⟨hp, hb⟩ := List.mem_filter.mp hp
      refine ⟨?_, Text.trim_trim p, fun hwithin => ?_⟩
      · rw [Text.blank_trim]
        simpa using hb
      · exact hcut.absent hd p hp (hwithin.trans (Text.trim_within p))
  · by_cases hne : fs = []
    · subst hne
      have hnone : ¬ d <:+: [] := fun h => hd (List.infix_nil.mp h)
      exact split_of_cut hd (Cut.last hnone)
    · rw [split_of_cut hd (Cut.of_closes hd hne fun f hf => (h f hf).2.2)]
      have hkept : fs.filter (fun f => !blank f) = fs :=
        List.filter_eq_self.mpr fun f hf => by simp [(h f hf).1]
      have htrimmed : fs.map trim = fs := by
        conv_rhs => rw [← List.map_id fs]
        exact List.map_congr_left fun f hf => (h f hf).2.1
      rw [hkept, htrimmed]

theorem split_pieces_overlapping :
    let d := Text.ofChars [',', ',']
    let t := Text.ofChars ['x', ',', ',', ',', ' ', 'y', ',', ',', ' ']
    let x := Text.ofChars ['x']
    let y := Text.ofChars [',', ' ', 'y']
    (d ≠ [] ∧ ∀ f ∈ [x, y], blank f = false ∧ trim f = f ∧ Closes d f) ∧
      split d t = .ok [x, y] ∧ split d (joined d [x, y]) = .ok [x, y] := by
  intro d t x y
  have hd : d ≠ [] := by decide
  have hfields : ∀ f ∈ [x, y], blank f = false ∧ trim f = f ∧ Closes d f := by decide
  have hcut : Cut d t [x, y, [.char ' ']] :=
    .next (hfields x (by decide)).2.2 (.next (hfields y (by decide)).2.2 (.last (by decide)))
  obtain ⟨hsplit, hjoined⟩ := split_pieces d hd
  obtain ⟨ps, -, hunique, -, ht, -⟩ := hsplit t
  rw [← hunique _ hcut] at ht
  exact ⟨⟨hd, hfields⟩, ht, hjoined [x, y] hfields⟩

end PropertyFile
