import PropertyFile.Proofs.Cycles

/-! Resolving a text depends only on the names that can be reached from it. -/

namespace PropertyFile

namespace Index

variable {α : Type}

def without (m : Index α) (name : Text) : Index α := m.filter fun e => e.1 != name

lemma find?_without (m : Index α) (name n : Text) :
    find? (m.without name) n = if name = n then none else find? m n := by
  rw [without, find?_filter (· != name)]
  by_cases h : name = n
  · simp [h]
  · simp [h, Ne.symm h]

end Index

namespace Resolution

open Reference (names replace)
open Relation (ReflTransGen)

variable {stored stored' : Index Text} {chain chain' ns : List Text} {t x y : Text}

lemma expand_of_mem {name : Text} (h : name ∈ chain) :
    expand stored chain (name :: ns) t = ⟨[], .error (cycle chain name)⟩ := by
  rw [expand, dif_pos h]

lemma expand_of_none {name : Text} (h : name ∉ chain) (hf : stored.find? name = none) :
    expand stored chain (name :: ns) t =
      ⟨(name, []) :: (expand stored chain ns (replace name [] t)).replacements,
        (expand stored chain ns (replace name [] t)).outcome⟩ := by
  rw [expand, dif_neg h]
  split
  · rfl
  · simp_all

lemma expand_of_some {name v : Text} (h : name ∉ chain) (hf : stored.find? name = some v) :
    expand stored chain (name :: ns) t =
      match (expand stored (chain ++ [name]) (names v) v).outcome with
      | .error c => ⟨(expand stored (chain ++ [name]) (names v) v).replacements, .error c⟩
      | .ok r =>
        ⟨(expand stored (chain ++ [name]) (names v) v).replacements ++
          (name, r) :: (expand stored chain ns (replace name r t)).replacements,
          (expand stored chain ns (replace name r t)).outcome⟩ := by
  rw [expand, dif_neg h]
  split
  · simp_all
  · rename_i w hw
    obtain rfl : v = w := Option.some.inj (hf.symm.trans hw)
    rfl

lemma expand_congr (h : ∀ n ∈ ns, n ∉ chain → stored.find? n = stored'.find? n ∧
    ∀ v, stored.find? n = some v →
      expand stored (chain ++ [n]) (names v) v = expand stored' (chain ++ [n]) (names v) v) :
    expand stored chain ns t = expand stored' chain ns t := by
  induction ns generalizing t with
  | nil => rw [expand, expand]
  | cons n ns ih =>
    rw [List.forall_mem_cons] at h
    by_cases hn : n ∈ chain
    · rw [expand_of_mem hn, expand_of_mem hn]
    · obtain ⟨hfind, hinner⟩ := h.1 hn
      cases hf : stored.find? n with
      | none =>
        rw [expand_of_none hn hf, expand_of_none hn (hfind ▸ hf), ih h.2]
      | some v =>
        rw [expand_of_some hn hf, expand_of_some hn (hfind ▸ hf), hinner v hf]
        simp only [ih h.2]

theorem expand_local (stored stored' : Index Text) (chain ns : List Text) (t : Text)
    (h : ∀ m ∈ ns, ∀ n, ReflTransGen (Leads stored) m n → stored.find? n = stored'.find? n) :
    expand stored chain ns t = expand stored' chain ns t := by
  -- On the stored names that are not yet in the chain: an inner walk starts with one fewer.
  induction chain using chain_induction stored generalizing ns t with
  | step chain ih =>
    refine expand_congr fun n hn hc => ⟨h n hn n .refl, fun w hf => ?_⟩
    refine ih n w hf hc _ _ fun m hm k hk => h n hn k ?_
    exact .head ((leads_iff hf).mpr hm) hk

lemma outcome_agree
    (hdiff : ∀ n, stored.find? n ≠ stored'.find? n → ∀ chain chain' a b,
      value stored chain n = .ok a → value stored' chain' n = .ok b → a = b)
    (hx : (expand stored chain ns t).outcome = .ok x)
    (hy : (expand stored' chain' ns t).outcome = .ok y) : x = y := by
  induction chain using chain_induction stored generalizing chain' ns t x y with
  | step chain ih =>
    obtain ⟨hv, rfl⟩ := of_outcome_ok hx
    obtain ⟨hv', rfl⟩ := of_outcome_ok hy
    have hsame : ∀ n ∈ ns, replacement stored chain n = replacement stored' chain' n := by
      intro n hn
      obtain ⟨hc, ha⟩ := hv n hn
      obtain ⟨-, hb⟩ := hv' n hn
      by_cases heq : stored.find? n = stored'.find? n
      · cases hf : stored.find? n with
        | none =>
          rw [value_of_none hf] at ha
          rw [value_of_none (heq ▸ hf)] at hb
          exact (Except.ok.inj ha).symm.trans (Except.ok.inj hb)
        | some w =>
          rw [value_of_some hf] at ha
          rw [value_of_some (heq ▸ hf)] at hb
          exact ih n w hf hc ha hb
      · exact hdiff n heq chain chain' _ _ ha hb
    exact List.foldl_ext _ _ _ fun t n hn => by rw [hsame n hn]

lemma outcome_unique (hx : (expand stored chain ns t).outcome = .ok x)
    (hy : (expand stored chain' ns t).outcome = .ok y) : x = y :=
  outcome_agree (fun _ h => absurd rfl h) hx hy

lemma mem_of_reaches {S : List Text} (hstart : ∀ m ∈ names t, m ∈ S)
    (hclosed : ∀ n ∈ S, ∀ w ∈ stored.find? n, ∀ m ∈ names w, m ∈ S) {n : Text}
    (h : Reaches stored t n) : n ∈ S := by
  obtain ⟨m, hm, hn⟩ := h
  induction hn with
  | refl => exact hstart m hm
  | tail _ hl ih =>
    obtain ⟨w, hw, hk⟩ := hl
    exact hclosed _ ih w hw _ hk

lemma resolve_congr (h : ∀ n, Reaches stored t n → stored.find? n = stored'.find? n)
    (origin : Option Text) : resolve stored origin t = resolve stored' origin t :=
  expand_local _ _ _ _ _ fun m hm n hn => h n ⟨m, hm, hn⟩

theorem resolve_local (stored : Index Text) (origin : Option Text) (t : Text) :
    (∀ stored' : Index Text, (∀ n, Reaches stored t n → stored.find? n = stored'.find? n) →
      resolve stored origin t = resolve stored' origin t) ∧
    ∀ n, ¬ Reaches stored t n →
      (∀ w, resolve (stored.put n w) origin t = resolve stored origin t) ∧
      resolve (stored.without n) origin t = resolve stored origin t := by
  refine ⟨fun stored' h => resolve_congr h origin, fun n hn => ⟨fun w => ?_, ?_⟩⟩
  · refine (resolve_congr (fun m hm => ?_) origin).symm
    have hne : n ≠ m := fun he => hn (he ▸ hm)
    rw [Index.find?_put, if_neg hne]
  · refine (resolve_congr (fun m hm => ?_) origin).symm
    have hne : n ≠ m := fun he => hn (he ▸ hm)
    rw [Index.find?_without, if_neg hne]

theorem resolve_local_elsewhere :
    let ab := Text.ofChars ['A', 'B']
    let cd := Text.ofChars ['C', 'D']
    let ef := Text.ofChars ['E', 'F']
    let stored : Index Text := [(ab, Text.ofChars ['x', '$', 'C', 'D']),
      (ef, Text.ofChars ['$', 'E', 'F']), (cd, Text.ofChars ['y'])]
    let stored' : Index Text := [(cd, Text.ofChars ['y']),
      (ab, Text.ofChars ['x', '$', 'C', 'D'])]
    let t := Text.ofChars ['$', 'A', 'B']
    (∀ n, Reaches stored t n → stored.find? n = stored'.find? n) ∧ ¬ Reaches stored t ef ∧
      resolve stored (some ef) t = resolve stored' (some ef) t ∧
      resolve (stored.put ef []) none t = resolve stored none t ∧
      resolve (stored.without ef) none t = resolve stored none t := by
  intro ab cd ef stored stored' t
  have hreached (n : Text) (h : Reaches stored t n) : n ∈ [ab, cd] :=
    mem_of_reaches (by decide) (by decide) h
  have hagree : ∀ n, Reaches stored t n → stored.find? n = stored'.find? n := by
    intro n hn
    have hall : ∀ n ∈ [ab, cd], stored.find? n = stored'.find? n := by decide
    exact hall n (hreached n hn)
  have hef : ¬ Reaches stored t ef := fun h => absurd (hreached ef h) (by decide)
  have hsame := (resolve_local stored (some ef) t).1 stored' hagree
  obtain ⟨hput, hwithout⟩ := (resolve_local stored none t).2 ef hef
  exact ⟨hagree, hef, hsame, hput [], hwithout⟩

end Resolution

end PropertyFile
