import PropertyFile.Proofs.Circles
import PropertyFile.Proofs.Order

/-! The pass writes the values over one after the other, and a value that leads to a cycle ends it
there. -/

namespace PropertyFile

namespace Index

variable {α : Type} {m : Index α} {n : Text}

lemma put_middle (hn : n ∉ m.names) (a b : α) (m' : Index α) :
    put (m ++ (n, a) :: m') n b = m ++ (n, b) :: m' := by
  induction m with
  | nil => simp [put]
  | cons e m ih =>
    obtain ⟨k, c⟩ := e
    have h : n ≠ k ∧ n ∉ names m := by simpa [names] using hn
    simp [put, Ne.symm h.1, ih h.2]

end Index

namespace Resolution

open Relation (TransGen)

variable {stored cur : Index Text} {c : List Text} {n v : Text}

structure Loop (stored : Index Text) (c : List Text) : Prop where
  closed : 2 ≤ c.length ∧ c.head? = c.getLast?
  distinct : c.dropLast.Nodup
  linked : c.IsChain (Links stored)

lemma mem_names_of_leads {m : Text} (h : Leads stored n m) : n ∈ stored.names := by
  obtain ⟨w, hw, -⟩ := h
  exact Index.mem_names.mpr (by simp [hw])

lemma mem_names_of_mem_dropLast (h : c.IsChain (Leads stored)) (hn : n ∈ c.dropLast) :
    n ∈ stored.names := by
  induction c with
  | nil => cases hn
  | cons m c ih =>
    cases c with
    | nil => cases hn
    | cons k c =>
      rw [List.isChain_cons_cons] at h
      rcases List.mem_cons.mp hn with rfl | hn
      · exact mem_names_of_leads h.1
      · exact ih h.2 hn

lemma loop_of_leads (hclosed : 2 ≤ c.length ∧ c.head? = c.getLast?) (hd : c.dropLast.Nodup)
    (h : c.IsChain (Leads stored)) : Loop stored c := by
  have hstored : ∀ n ∈ c, n ∈ stored.names := by
    obtain ⟨hlength, hends⟩ := hclosed
    intro n hn
    match c with
    | m :: k :: c =>
      have hfirst : m ∈ stored.names := mem_names_of_leads (List.isChain_cons_cons.mp h).1
      rw [← List.dropLast_append_getLast (List.cons_ne_nil m (k :: c)), List.mem_append,
        List.mem_singleton] at hn
      rcases hn with hn | rfl
      · exact mem_names_of_mem_dropLast h hn
      · rw [List.getLast?_eq_some_getLast (List.cons_ne_nil m (k :: c))] at hends
        rwa [← Option.some.inj hends]
  exact ⟨hclosed, hd, h.imp_of_mem_imp fun n m _ hm hl => ⟨hl, hstored m hm⟩⟩

lemma Circle.loop (hsees : ∀ n w, cur.find? n = some w → stored.find? n = some w)
    (hn : stored.find? n = some v) (h : Circle cur (some n) v c) : Loop stored c := by
  refine loop_of_leads h.closed h.distinct (h.linked.imp fun m k hk => ?_)
  rw [Refers] at hk
  split at hk
  · rename_i he
    obtain rfl := Option.some.inj he
    exact ⟨v, hn, hk⟩
  · obtain ⟨w, hw, hk⟩ := hk
    exact ⟨w, hsees m w hw, hk⟩

end Resolution

namespace Store

open Resolution

variable {r : Registry} {old new resolved raw : Index Text} {n v t : Text}

inductive Writes (r : Registry) (old : Index Text) : List (Text × Text) → Index Text → Prop
  | none : Writes r old [] old
  | next {ws : List (Text × Text)} {cur : Index Text} {n v t : Text} : Writes r old ws cur →
    cur.find? n = some v → (resolve (visible r cur) (some n) v).outcome = .ok t →
    Writes r old (ws ++ [(n, t)]) (cur.put n t)

structure Progress (r : Registry) (old new : Index Text) (i : ℕ) : Prop where
  names : new.names = old.names
  raw : new.drop i = old.drop i
  resolved : ∀ j < i, ∀ n v, old[j]? = some (n, v) → ∃ t, new[j]? = some (n, t) ∧
    (resolve (visible r (new.take j ++ old.drop j)) (some n) v).outcome = .ok t
  writes : Writes r old (new.take i) new

lemma Progress.start (r : Registry) (old : Index Text) : Progress r old old 0 :=
  ⟨rfl, rfl, by simp, .none⟩

lemma Progress.step (hnd : old.names.Nodup)
    (h : Progress r old (resolved ++ (n, v) :: raw) resolved.length)
    (ht : (resolve (visible r (resolved ++ (n, v) :: raw)) (some n) v).outcome = .ok t) :
    Progress r old (resolved ++ (n, t) :: raw) (resolved.length + 1) := by
  have hn : n ∉ resolved.names := Index.not_mem_front (h.names ▸ hnd)
  have hdrop : old.drop resolved.length = (n, v) :: raw := by rw [← h.raw, List.drop_left]
  refine ⟨?_, ?_, fun j hj m w hw => ?_, ?_⟩
  · rw [← h.names]
    simp [Index.names]
  · have htail : old.drop (resolved.length + 1) = raw := by rw [← List.drop_drop, hdrop]; rfl
    rw [htail]
    simp
  · -- Up to `j` nothing has changed by this step, so only its own value is new.
    have htake : (resolved ++ (n, t) :: raw).take j = (resolved ++ (n, v) :: raw).take j := by
      rw [List.take_append_of_le_length (by omega), List.take_append_of_le_length (by omega)]
    rcases Nat.lt_succ_iff_lt_or_eq.mp hj with hj | rfl
    · have hsame : (resolved ++ (n, t) :: raw)[j]? = (resolved ++ (n, v) :: raw)[j]? := by
        rw [List.getElem?_append_left hj, List.getElem?_append_left hj]
      rw [htake, hsame]
      exact h.resolved j hj m w hw
    · have hnv : (n, v) = (m, w) := by
        have hhead : old[resolved.length]? = some (n, v) := by
          rw [← List.head?_drop, hdrop, List.head?_cons]
        exact Option.some.inj (hhead.symm.trans hw)
      obtain ⟨rfl, rfl⟩ := Prod.mk.inj hnv
      rw [htake, List.take_left, hdrop]
      exact ⟨t, by simp, ht⟩
  · have hwrites := h.writes.next (find?_middle hn v raw) ht
    have htake : (resolved ++ (n, t) :: raw).take (resolved.length + 1) = resolved ++ [(n, t)] := by
      rw [List.take_length_add_append]
      rfl
    rwa [Index.put_middle hn, List.take_left, ← htake] at hwrites

theorem resolveFrom_progress (hnd : old.names.Nodup)
    (h : Progress r old (resolved ++ raw) resolved.length) :
    ((resolveFrom r resolved raw).cycle = none ∧
      Progress r old (resolveFrom r resolved raw).values old.length) ∨
    ∃ i n v c, (resolveFrom r resolved raw).cycle = some c ∧ old[i]? = some (n, v) ∧
      Progress r old (resolveFrom r resolved raw).values i ∧
      (resolve (visible r (resolveFrom r resolved raw).values) (some n) v).outcome = .error c := by
  induction raw generalizing resolved with
  | nil =>
    have hlength : resolved.length = old.length := by
      have hnames := congrArg List.length h.names
      simpa [Index.names] using hnames
    rw [List.append_nil, hlength] at h
    exact .inl ⟨rfl, h⟩
  | cons e raw ih =>
    obtain ⟨n, v⟩ := e
    cases ho : (resolve (visible r (resolved ++ (n, v) :: raw)) (some n) v).outcome with
    | error c =>
      have hold : old[resolved.length]? = some (n, v) := by
        rw [← List.head?_drop, ← h.raw, List.drop_left, List.head?_cons]
      simp only [resolveFrom, ho]
      exact .inr ⟨resolved.length, n, v, c, rfl, hold, h, ho⟩
    | ok t =>
      have hnext :
          Progress r old ((resolved ++ [(n, t)]) ++ raw) (resolved ++ [(n, t)]).length := by
        simpa using h.step hnd ho
      simpa only [resolveFrom, ho] using ih hnext

theorem resolveAll_progress (s : Store) :
    s.resolveAll.store.registry = s.registry ∧
    s.resolveAll.store.values.names = s.values.names ∧
    ((s.resolveAll.failure = none ∧
        Progress s.registry s.values s.resolveAll.store.values s.values.length) ∨
      ∃ i n v c, s.resolveAll.failure = some (ConfigError.cyclicReference c) ∧
        s.values[i]? = some (n, v) ∧
        Progress s.registry s.values s.resolveAll.store.values i ∧
        (resolve (visible s.registry s.resolveAll.store.values) (some n) v).outcome = .error c ∧
        Loop s.resolveAll.store.values c) := by
  refine ⟨rfl, names_resolveAll s, ?_⟩
  have hstart : Progress s.registry s.values ([] ++ s.values) ([] : Index Text).length :=
    .start s.registry s.values
  rcases resolveFrom_progress s.nodup hstart with
    ⟨hnone, hp⟩ | ⟨i, n, v, c, hc, hold, hp, ho⟩
  · exact .inl ⟨by simp [resolveAll, hnone], hp⟩
  · refine .inr ⟨i, n, v, c, by simp [resolveAll, hc], hold, hp, ho, ?_⟩
    have hfind : s.resolveAll.store.values.find? n = some v := by
      have hnew : s.resolveAll.store.values[i]? = some (n, v) := by
        rw [← hold, ← List.head?_drop, ← List.head?_drop]
        exact congrArg List.head? hp.raw
      rw [Index.find?_eq_some_iff s.resolveAll.store.nodup]
      exact List.mem_of_getElem? hnew
    refine (resolve_error_circle _ _ v c ho).loop (fun m w hm => ?_) hfind
    rw [find?_visible] at hm
    split at hm
    · exact hm
    · cases hm

end Store

end PropertyFile
