import Mathlib
import PropertyFile.Proofs.Locality
import PropertyFile.Proofs.Pass
import PropertyFile.Proofs.Rows

/-! The order of the entries makes no difference as long as no resolved value holds a reference. -/

namespace PropertyFile

namespace Index

variable {α : Type} {m m' : Index α} {n : Text} {a : α}

lemma find?_eq_some_iff (h : m.names.Nodup) : m.find? n = some a ↔ (n, a) ∈ m := by
  induction m with
  | nil => simp [find?]
  | cons e m ih =>
    obtain ⟨k, b⟩ := e
    rw [names, List.map_cons, List.nodup_cons] at h
    by_cases hk : k = n
    · subst hk
      have hnot : (k, a) ∉ m := fun hm => h.1 (List.mem_map.mpr ⟨_, hm, rfl⟩)
      simp [find?, hnot, eq_comm]
    · simp [find?, hk, ih h.2, Ne.symm hk]

lemma find?_perm (hp : m.Perm m') (h : m.names.Nodup) (n : Text) : m.find? n = m'.find? n := by
  have h' : m'.names.Nodup := (hp.map Prod.fst).nodup_iff.mp h
  apply Option.ext
  intro a
  rw [find?_eq_some_iff h, find?_eq_some_iff h', hp.mem_iff]

end Index

namespace Resolution

open Reference (names)

variable {stored stored' old cur : Index Text} {done : List Text} {n w x y : Text}

/-- No stored text resolves to a text that holds a reference. -/
def Flat (stored : Index Text) : Prop :=
  ∀ n w x, stored.find? n = some w → (resolve stored (some n) w).outcome = .ok x → names x = []

lemma leads_congr (h : ∀ n, stored.find? n = stored'.find? n) : Leads stored = Leads stored' := by
  funext n m
  rw [Leads, Leads, h n]

lemma Flat.congr (h : ∀ n, stored.find? n = stored'.find? n) (hf : Flat stored) : Flat stored' := by
  intro n w x hw hx
  rw [← h n] at hw
  rw [← resolve_congr fun n _ => h n] at hx
  exact hf n w x hw hx

lemma flat_of_separated
    (h : ∀ n w, stored.find? n = some w → Reference.Separated (Reference.pieces w)) :
    Flat stored := by
  intro n w x hw hx
  obtain ⟨-, hinert⟩ := expands_of_ok _ w x (h n w hw) (fun _ _ _ hk => h _ _ hk) hx
  exact Reference.names_inert hinert

structure Flattened (old cur : Index Text) (done : List Text) : Prop where
  resolved : ∀ n ∈ done, ∃ w x, old.find? n = some w ∧ cur.find? n = some x ∧
    (resolve old (some n) w).outcome = .ok x ∧ names x = []
  raw : ∀ n, n ∉ done → cur.find? n = old.find? n

namespace Flattened

lemma start (old : Index Text) : Flattened old old [] := ⟨by simp, fun _ _ => rfl⟩

lemma cleared (h : Flattened old cur done) : Cleared old cur done := by
  refine ⟨fun n hn => ?_, h.raw⟩
  obtain ⟨w, x, hw, hx, hr, hnames⟩ := h.resolved n hn
  refine ⟨?_, x, hx, hnames⟩
  rw [← cyclic_iff_doomed hw, hr]
  simp

lemma agree (h : Flattened old cur done) {chain chain' ns : List Text} {t : Text}
    (hx : (expand cur chain ns t).outcome = .ok x)
    (hy : (expand old chain' ns t).outcome = .ok y) : x = y := by
  refine outcome_agree (fun n hn chain chain' a b ha hb => ?_) hx hy
  have hd : n ∈ done := by
    by_contra hd
    exact hn (h.raw n hd)
  obtain ⟨w, x, hw, hcur, hr, hnames⟩ := h.resolved n hd
  rw [value_of_some hcur, hnames, outcome_nil] at ha
  rw [value_of_some hw] at hb
  obtain rfl := Except.ok.inj ha
  exact outcome_unique hr hb

lemma step (h : Flattened old cur done) {cur' : Index Text} (hf : Flat old) (hn : n ∉ done)
    (hw : old.find? n = some w) (hr : (resolve cur (some n) w).outcome = .ok x)
    (hnew : cur'.find? n = some x) (hsame : ∀ m, m ≠ n → cur'.find? m = cur.find? m) :
    Flattened old cur' (done ++ [n]) := by
  have hsafe : ¬ Doomed old n := h.cleared.not_doomed_of_ok hn hw hr
  cases ho : (resolve old (some n) w).outcome with
  | error c => exact absurd ((cyclic_iff_doomed hw).mp ⟨c, ho⟩) hsafe
  | ok y =>
    obtain rfl : x = y := h.agree hr ho
    refine ⟨fun m hm => ?_, fun m hm => ?_⟩
    · rcases List.mem_append.mp hm with hm | hm
      · obtain ⟨w', x', hw', hx', hrest⟩ := h.resolved m hm
        refine ⟨w', x', hw', ?_, hrest⟩
        rw [hsame m fun he => hn (he ▸ hm), hx']
      · obtain rfl := List.mem_singleton.mp hm
        exact ⟨w, x, hw, hnew, ho, hf m w x hw ho⟩
    · rw [List.mem_append, not_or, List.mem_singleton] at hm
      rw [hsame m hm.2, h.raw m hm.1]

end Flattened

end Resolution

namespace Store

open Resolution

variable {r : Registry} {s s' : Store}

lemma resolveAll_flat (hd : ∀ n ∈ s.values.names, s.registry.declares n = true)
    (hf : Flat s.values) :
    ((∃ c, s.resolveAll.failure = some (ConfigError.cyclicReference c)) ↔
      ∃ n, Doomed s.values n) ∧
    ((¬ ∃ n, Doomed s.values n) → s.resolveAll.failure = none ∧
      ∀ n, s.resolveAll.store.values.find? n =
        (s.values.find? n).bind fun w => (resolve s.values (some n) w).outcome.toOption) := by
  obtain ⟨hok, hcycle⟩ := resolveFrom_run Flattened.cleared
    (fun h hn hw hr hnew hsame => h.step hf hn hw hr hnew hsame) [] hd s.nodup (.start s.values)
  have hfail : (∃ c, (resolveFrom s.registry [] s.values).cycle = some c) ↔
      ∃ n, Doomed s.values n := by
    constructor
    · rintro ⟨c, hc⟩
      exact hcycle c hc
    · rintro ⟨n, hn⟩
      apply Option.ne_none_iff_exists'.mp
      intro hnone
      exact ((hok hnone).cleared.cleared n (mem_names_of_doomed hn)).1 hn
  refine ⟨by simpa [resolveAll] using hfail, fun hsafe => ?_⟩
  have hnone : (resolveFrom s.registry [] s.values).cycle = none := by
    rw [← hfail] at hsafe
    simpa [← Option.ne_none_iff_exists'] using hsafe
  refine ⟨by simp [resolveAll, hnone], fun n => ?_⟩
  by_cases hn : n ∈ s.values.names
  · obtain ⟨w, x, hw, hx, hr, -⟩ := (hok hnone).resolved n hn
    rw [hw]
    exact hx.trans (by rw [Option.bind_some, hr]; rfl)
  · have hraw := (hok hnone).raw n hn
    rw [Index.mem_names, Option.not_isSome_iff_eq_none] at hn
    rw [hn] at hraw ⊢
    exact hraw

lemma resolveAll_order (hr : s.registry = s'.registry) (hp : s.values.Perm s'.values)
    (hd : ∀ n ∈ s.values.names, s.registry.declares n = true) (hf : Flat s.values) :
    ((∃ c, s.resolveAll.failure = some (ConfigError.cyclicReference c)) ∧
      ∃ c, s'.resolveAll.failure = some (ConfigError.cyclicReference c)) ∨
    (s.resolveAll.failure = none ∧ s'.resolveAll.failure = none ∧
      ∀ n, s.resolveAll.store.values.find? n = s'.resolveAll.store.values.find? n) := by
  have hfind := Index.find?_perm hp s.nodup
  have hd' : ∀ n ∈ s'.values.names, s'.registry.declares n = true := by
    intro n hn
    rw [← hr]
    exact hd n ((hp.map Prod.fst).mem_iff.mpr hn)
  have hdoomed : (∃ n, Doomed s'.values n) ↔ ∃ n, Doomed s.values n := by
    simp only [Doomed, leads_congr hfind]
  obtain ⟨hcycle, hok⟩ := resolveAll_flat hd hf
  obtain ⟨hcycle', hok'⟩ := resolveAll_flat hd' (hf.congr hfind)
  rw [hdoomed] at hcycle' hok'
  by_cases hany : ∃ n, Doomed s.values n
  · exact .inl ⟨hcycle.mpr hany, hcycle'.mpr hany⟩
  · obtain ⟨hnone, hvalues⟩ := hok hany
    obtain ⟨hnone', hvalues'⟩ := hok' hany
    refine .inr ⟨hnone, hnone', fun n => ?_⟩
    rw [hvalues, hvalues', hfind n]
    exact congrArg _ (funext fun w => by rw [resolve_congr fun n _ => hfind n])

theorem resolveAll_perm (r : Registry) (m m' : Index Text) (hp : m.Perm m')
    (hnd : m.names.Nodup) (hd : ∀ n ∈ m.names, r.declares n = true) (hf : Flat m) :
    let a := ((entries m).foldl record (empty r)).resolveAll
    let b := ((entries m').foldl record (empty r)).resolveAll
    ((∃ c, a.failure = some (ConfigError.cyclicReference c)) ∧
      ∃ c, b.failure = some (ConfigError.cyclicReference c)) ∨
    (a.failure = none ∧ b.failure = none ∧
      ∀ n, a.store.values.find? n = b.store.values.find? n) := by
  have hvalues {k : Index Text} (h : k.names.Nodup) :
      ((entries k).foldl record (empty r)).values = k := by
    rw [values_foldl_record]
    exact foldl_put_entries (m := []) h
  have hm := hvalues hnd
  have hm' := hvalues ((hp.map Prod.fst).nodup_iff.mp hnd)
  apply resolveAll_order
  · rw [registry_foldl_record, registry_foldl_record]
  · rwa [hm, hm']
  · rw [hm, registry_foldl_record]
    exact hd
  · rwa [hm]

theorem resolveAll_perm_pair :
    let declared (name : List Char) (h : Text.blank (Text.ofChars name) = false) : Descriptor :=
      ⟨Text.ofChars name, false, [], h⟩
    let r : Registry := ⟨[declared ['A', 'B'] rfl, declared ['C', 'D'] rfl], by simp, by decide⟩
    let ab := (Text.ofChars ['A', 'B'], Text.ofChars ['$', 'C', 'D'])
    let cd := (Text.ofChars ['C', 'D'], Text.ofChars ['5', '$', '1'])
    let a := ((entries [ab, cd]).foldl record (empty r)).resolveAll
    let b := ((entries [cd, ab]).foldl record (empty r)).resolveAll
    ((∃ c, a.failure = some (ConfigError.cyclicReference c)) ∧
      ∃ c, b.failure = some (ConfigError.cyclicReference c)) ∨
    (a.failure = none ∧ b.failure = none ∧
      ∀ n, a.store.values.find? n = b.store.values.find? n) := by
  intro declared r ab cd
  have hp : Reference.pieces (Text.ofChars ['$', 'C', 'D']) =
      [.reference (Text.ofChars ['C', 'D']) (Text.ofChars ['$', 'C', 'D'])] := by decide
  refine resolveAll_perm r [ab, cd] [cd, ab] (.swap cd ab []) (by decide) (by decide) ?_
  refine flat_of_separated fun n w hw => ?_
  simp only [ab, cd, Index.find?] at hw
  split at hw
  · obtain rfl := Option.some.inj hw
    simp [hp, Reference.Separated]
  · split at hw
    · obtain rfl := Option.some.inj hw
      exact Reference.separated_price
    · cases hw

theorem resolveAll_order_matters :
    ¬ ∀ (r : Registry) (m m' : Index Text), m.Perm m' → m.names.Nodup →
      (∀ n ∈ m.names, r.declares n = true) →
      let a := ((entries m).foldl record (empty r)).resolveAll
      let b := ((entries m').foldl record (empty r)).resolveAll
      ((∃ c, a.failure = some (ConfigError.cyclicReference c)) ∧
        ∃ c, b.failure = some (ConfigError.cyclicReference c)) ∨
      (a.failure = none ∧ b.failure = none ∧
        ∀ n, a.store.values.find? n = b.store.values.find? n) := by
  intro h
  let declared (name : List Char) (h : Text.blank (Text.ofChars name) = false) : Descriptor :=
    ⟨Text.ofChars name, false, [], h⟩
  let r : Registry :=
    ⟨[declared ['A', 'B'] rfl, declared ['C', 'D'] rfl, declared ['G', 'H'] rfl], by simp,
      by decide⟩
  let ab := (Text.ofChars ['A', 'B'], Text.ofChars ['$', '$', '{', 'C', 'D', '}'])
  let cd := (Text.ofChars ['C', 'D'], Text.ofChars ['A', 'B'])
  let gh := (Text.ofChars ['G', 'H'], Text.ofChars ['$', 'A', 'B'])
  let pass (m : Index Text) : Change := ((entries m).foldl record (empty r)).resolveAll
  have hfails : (pass [ab, cd, gh]).failure.isSome = true := by cbv
  have hloads : (pass [gh, ab, cd]).failure.isNone = true := by cbv
  have hperm : [ab, cd, gh].Perm [gh, ab, cd] := by decide
  rcases h r [ab, cd, gh] [gh, ab, cd] hperm (by decide) (by decide) with ⟨-, c, hc⟩ | ⟨hnone, -⟩
  · simp [pass, hc] at hloads
  · simp [pass, hnone] at hfails

end Store

end PropertyFile
