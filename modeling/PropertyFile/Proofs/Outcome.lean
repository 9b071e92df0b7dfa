import PropertyFile.Proofs.Pieces
import PropertyFile.Resolution

/-! The outcome of resolving a text, name by name. -/

namespace PropertyFile.Resolution

open Reference (names replace)

variable {stored : Index Text} {chain ns : List Text} {name t : Text}

def value (stored : Index Text) (chain : List Text) (name : Text) : Except (List Text) Text :=
  match stored.find? name with
  | none => .ok []
  | some v => (expand stored (chain ++ [name]) (names v) v).outcome

lemma value_of_none (h : stored.find? name = none) : value stored chain name = .ok [] := by
  simp [value, h]

lemma value_of_some {v : Text} (h : stored.find? name = some v) :
    value stored chain name = (expand stored (chain ++ [name]) (names v) v).outcome := by
  simp [value, h]

lemma outcome_nil : (expand stored chain [] t).outcome = .ok t := by
  rw [expand]

lemma outcome_cons_of_mem (h : name ∈ chain) :
    (expand stored chain (name :: ns) t).outcome = .error (cycle chain name) := by
  rw [expand, dif_pos h]

lemma outcome_cons (h : name ∉ chain) :
    (expand stored chain (name :: ns) t).outcome =
      (value stored chain name).bind fun r =>
        (expand stored chain ns (replace name r t)).outcome := by
  rw [expand, dif_neg h]
  split
  · rename_i hf
    rw [value_of_none hf]
    rfl
  · rename_i v hf
    rw [value_of_some hf]
    cases he : (expand stored (chain ++ [name]) (names v) v).outcome <;> simp [he, Except.bind]

theorem chain_induction (stored : Index Text) {P : List Text → Prop}
    (step : ∀ chain, (∀ name v, stored.find? name = some v → name ∉ chain → P (chain ++ [name])) →
      P chain) (chain : List Text) : P chain := by
  -- every name entered is a stored one that the chain lacks
  induction hk : (pending stored chain).length using Nat.strong_induction_on generalizing chain with
  | h k ih =>
    apply step chain
    intro name v hf hc
    have hlt := length_pending_lt hf hc
    exact ih _ (by omega) _ rfl

theorem outcome_error_iff :
    (∃ c, (expand stored chain ns t).outcome = .error c) ↔
      ∃ n ∈ ns, n ∈ chain ∨ n ∉ chain ∧ ∃ c, value stored chain n = .error c := by
  induction ns generalizing t with
  | nil => simp [outcome_nil]
  | cons n ns ih =>
    rw [List.exists_mem_cons_iff]
    by_cases hn : n ∈ chain
    · simp [outcome_cons_of_mem hn, hn]
    · rw [outcome_cons hn]
      cases hv : value stored chain n with
      | error c => simp [Except.bind, hn]
      | ok r => simp [Except.bind, hn, ih]

def replacement (stored : Index Text) (chain : List Text) (name : Text) : Text :=
  ((value stored chain name).toOption).getD []

lemma value_eq_replacement {r : Text} (h : value stored chain name = .ok r) :
    replacement stored chain name = r := by
  simp [replacement, h, Except.toOption]

theorem of_outcome_ok {r : Text} (h : (expand stored chain ns t).outcome = .ok r) :
    (∀ n ∈ ns, n ∉ chain ∧ value stored chain n = .ok (replacement stored chain n)) ∧
      ns.foldl (fun t n => replace n (replacement stored chain n) t) t = r := by
  induction ns generalizing t with
  | nil =>
    rw [outcome_nil] at h
    exact ⟨by simp, Except.ok.inj h⟩
  | cons n ns ih =>
    by_cases hn : n ∈ chain
    · rw [outcome_cons_of_mem hn] at h
      cases h
    · rw [outcome_cons hn] at h
      cases hv : value stored chain n with
      | error c =>
        rw [hv] at h
        cases h
      | ok x =>
        have hx := value_eq_replacement hv
        rw [hv] at h
        obtain ⟨hns, hr⟩ := ih h
        rw [List.foldl_cons, hx]
        exact ⟨List.forall_mem_cons.mpr ⟨⟨hn, by rw [hv, hx]⟩, hns⟩, hr⟩

end PropertyFile.Resolution
