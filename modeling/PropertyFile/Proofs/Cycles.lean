import PropertyFile.Proofs.Outcome

/-! Resolving a text fails just if its names lead to a cycle of stored ones. -/

namespace PropertyFile.Resolution

open Reference (names replace isName_of_mem_names ne_nil_of_isName)
open Relation (ReflTransGen TransGen)

def Leads (stored : Index Text) (n m : Text) : Prop :=
  ∃ w, stored.find? n = some w ∧ m ∈ names w

def Reaches (stored : Index Text) (t n : Text) : Prop :=
  ∃ m ∈ names t, ReflTransGen (Leads stored) m n

variable {stored : Index Text} {chain ns : List Text} {t n m : Text}

lemma leads_iff {w : Text} (h : stored.find? n = some w) : Leads stored n m ↔ m ∈ names w := by
  constructor
  · rintro ⟨w', hw, hm⟩
    rw [h] at hw
    rwa [Option.some.inj hw]
  · exact fun hm => ⟨w, h, hm⟩

lemma not_leads (h : stored.find? n = none) : ¬ Leads stored n m := by
  rintro ⟨w, hw, _⟩
  rw [h] at hw
  cases hw

lemma not_transGen (h : stored.find? n = none) : ¬ TransGen (Leads stored) n m := by
  intro hm
  obtain ⟨k, hk, _⟩ := TransGen.head'_iff.mp hm
  exact not_leads h hk

lemma reaches_of_leads {w : Text} (h : stored.find? n = some w) :
    Reaches stored w m ↔ TransGen (Leads stored) n m := by
  rw [TransGen.head'_iff]
  constructor
  · rintro ⟨k, hk, hm⟩
    exact ⟨k, (leads_iff h).mpr hk, hm⟩
  · rintro ⟨k, hk, hm⟩
    exact ⟨k, (leads_iff h).mp hk, hm⟩

lemma isName_of_reaches (h : Reaches stored t n) : Reference.isName n = true := by
  obtain ⟨m, hm, hn⟩ := h
  rcases ReflTransGen.cases_tail hn with rfl | ⟨k, _, w, _, hw⟩
  · exact isName_of_mem_names hm
  · exact isName_of_mem_names hw

def Fails (stored : Index Text) (chain : List Text) (n : Text) : Prop :=
  n ∈ chain ∨ TransGen (Leads stored) n n

lemma fails_enter {w : Text} (hf : stored.find? m = some w) (hm : m ∉ chain) :
    (∃ k ∈ names w, ∃ n, ReflTransGen (Leads stored) k n ∧ Fails stored (chain ++ [m]) n) ↔
      ∃ n, ReflTransGen (Leads stored) m n ∧ Fails stored chain n := by
  constructor
  · rintro ⟨k, hk, n, hn, hfail⟩
    have hl : Leads stored m k := (leads_iff hf).mpr hk
    rcases hfail with hc | hcycle
    · rcases List.mem_append.mp hc with hc | he
      · exact ⟨n, .head hl hn, .inl hc⟩
      -- back at `m` itself: the way there closes a cycle
      · obtain rfl := List.mem_singleton.mp he
        exact ⟨n, .refl, .inr (.head' hl hn)⟩
    · exact ⟨n, .head hl hn, .inr hcycle⟩
  · rintro ⟨n, hn, hfail⟩
    rcases ReflTransGen.cases_head hn with rfl | ⟨k, hl, hn⟩
    · rcases hfail with hc | hcycle
      · exact absurd hc hm
      · obtain ⟨k, hl, hk⟩ := TransGen.head'_iff.mp hcycle
        exact ⟨k, (leads_iff hf).mp hl, m, hk, .inl (by simp)⟩
    · exact ⟨k, (leads_iff hf).mp hl, n, hn, hfail.imp_left (List.mem_append_left _)⟩

theorem expand_error_iff (stored : Index Text) (chain ns : List Text) (t : Text) :
    (∃ c, (expand stored chain ns t).outcome = .error c) ↔
      ∃ m ∈ ns, ∃ n, ReflTransGen (Leads stored) m n ∧ Fails stored chain n := by
  induction chain using chain_induction stored generalizing ns t with
  | step chain ih =>
    rw [outcome_error_iff]
    refine exists_congr fun m => and_congr_right fun _ => ?_
    by_cases hm : m ∈ chain
    · simp only [hm, not_true, false_and, or_false, true_iff]
      exact ⟨m, .refl, .inl hm⟩
    · simp only [hm, not_false_eq_true, true_and, false_or]
      cases hf : stored.find? m with
      | none =>
        simp only [value_of_none hf, reduceCtorEq, exists_false, false_iff]
        rintro ⟨n, hn, hfail⟩
        rcases ReflTransGen.cases_head hn with rfl | ⟨k, hl, _⟩
        · exact hfail.elim hm (not_transGen hf)
        · exact not_leads hf hl
      | some w => rw [value_of_some hf, ih m w hf hm, fails_enter hf hm]

section Depth

def visit (inner : List Text → Text → Option (Except (List Text) Text)) (stored : Index Text)
    (chain : List Text) : List Text → Text → Option (Except (List Text) Text)
  | [], t => some (.ok t)
  | name :: ns, t =>
    if chain.contains name then some (.error (cycle chain name))
    else match stored.find? name with
      | none => visit inner stored chain ns (replace name [] t)
      | some v =>
        match inner (chain ++ [name]) v with
        | none => none
        | some (.error c) => some (.error c)
        | some (.ok r) => visit inner stored chain ns (replace name r t)

def expandWithin (stored : Index Text) : ℕ → List Text → Text → Option (Except (List Text) Text)
  | 0, _, _ => none
  | depth + 1, chain, t => visit (expandWithin stored depth) stored chain (names t) t

def resolveWithin (stored : Index Text) (depth : ℕ) (origin : Option Text) (t : Text) :
    Option (Except (List Text) Text) :=
  expandWithin stored depth (origin.toList.filter (!·.isEmpty)) t

lemma visit_eq {inner : List Text → Text → Option (Except (List Text) Text)}
    (h : ∀ name v, stored.find? name = some v → name ∉ chain →
      inner (chain ++ [name]) v = some (expand stored (chain ++ [name]) (names v) v).outcome) :
    visit inner stored chain ns t = some (expand stored chain ns t).outcome := by
  induction ns generalizing t with
  | nil => rw [visit, outcome_nil]
  | cons name ns ih =>
    by_cases hc : name ∈ chain
    · rw [visit, if_pos (List.contains_iff_mem.mpr hc), outcome_cons_of_mem hc]
    · rw [visit, if_neg (List.contains_iff_mem.not.mpr hc), outcome_cons hc]
      cases hf : stored.find? name with
      | none => simpa [value_of_none hf, Except.bind] using ih
      | some v =>
        rw [value_of_some hf]
        simp only [h name v hf hc]
        cases he : (expand stored (chain ++ [name]) (names v) v).outcome with
        | error c => rfl
        | ok r => simpa [Except.bind] using ih

lemma expandWithin_eq {depth : ℕ} (h : (pending stored chain).length < depth) :
    expandWithin stored depth chain t = some (expand stored chain (names t) t).outcome := by
  induction depth generalizing chain t with
  | zero => omega
  | succ depth ih =>
    refine visit_eq fun name v hf hc => ih ?_
    have hlt := length_pending_lt hf hc
    omega

end Depth

lemma mem_origin {origin : Option Text} (h : n ≠ []) :
    n ∈ origin.toList.filter (!·.isEmpty) ↔ origin = some n := by
  cases origin with
  | none => simp
  | some o =>
    simp only [Option.toList_some, List.mem_filter, List.mem_singleton, Option.some.injEq]
    constructor
    · exact fun ho => ho.1.symm
    · rintro rfl
      simp [h]

lemma cyclic_iff (stored : Index Text) (origin : Option Text) (t : Text) :
    (∃ c, (resolve stored origin t).outcome = .error c) ↔
      ∃ n, Reaches stored t n ∧ (origin = some n ∨ TransGen (Leads stored) n n) := by
  rw [resolve, expand_error_iff]
  constructor
  · rintro ⟨m, hm, n, hn, hfail⟩
    have hr : Reaches stored t n := ⟨m, hm, hn⟩
    exact ⟨n, hr, hfail.imp_left (mem_origin (ne_nil_of_isName (isName_of_reaches hr))).mp⟩
  · rintro ⟨n, hr, hfail⟩
    obtain ⟨m, hm, hn⟩ := hr
    have hne := ne_nil_of_isName (isName_of_reaches ⟨m, hm, hn⟩)
    exact ⟨m, hm, n, hn, hfail.imp_left (mem_origin hne).mpr⟩

theorem resolve_error_iff (stored : Index Text) (origin : Option Text) (t : Text) :
    resolveWithin stored (stored.length + 1) origin t = some (resolve stored origin t).outcome ∧
    ((∃ c, (resolve stored origin t).outcome = .error c) ↔
      ∃ n, Reaches stored t n ∧ (origin = some n ∨ TransGen (Leads stored) n n)) ∧
    ((∃ r, (resolve stored origin t).outcome = .ok r) ↔
      ∀ n, Reaches stored t n → origin ≠ some n ∧ ¬ TransGen (Leads stored) n n) ∧
    ∀ n, stored.find? n = none → ¬ TransGen (Leads stored) n n := by
  refine ⟨expandWithin_eq ?_, cyclic_iff stored origin t, ?_, fun n => not_transGen⟩
  · have hl := List.length_filter_le (fun n => !(origin.toList.filter (!·.isEmpty)).contains n)
      stored.names
    simp only [pending, Index.names, List.length_map] at hl ⊢
    omega
  · have hok : (∃ r, (resolve stored origin t).outcome = .ok r) ↔
        ¬ ∃ c, (resolve stored origin t).outcome = .error c := by
      cases (resolve stored origin t).outcome <;> simp
    rw [hok, cyclic_iff]
    push Not
    rfl

end PropertyFile.Resolution
