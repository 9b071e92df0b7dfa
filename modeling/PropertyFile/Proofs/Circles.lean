import PropertyFile.Proofs.Cycles

/-! The cycle that a failed resolution reports is the end of the trail of names it has entered. -/

namespace PropertyFile.Resolution

open Reference (names replace isName_of_mem_names ne_nil_of_isName)
open Relation (ReflTransGen)

variable {stored : Index Text} {origin : Option Text} {chain ns c trail : List Text} {t n m : Text}

lemma of_outcome_error (h : (expand stored chain ns t).outcome = .error c) :
    ∃ n ∈ ns, n ∈ chain ∧ c = cycle chain n ∨ n ∉ chain ∧ value stored chain n = .error c := by
  induction ns generalizing t with
  | nil =>
    rw [outcome_nil] at h
    cases h
  | cons n ns ih =>
    rw [List.exists_mem_cons_iff]
    by_cases hn : n ∈ chain
    · rw [outcome_cons_of_mem hn] at h
      exact .inl (.inl ⟨hn, (Except.error.inj h).symm⟩)
    · rw [outcome_cons hn] at h
      cases hv : value stored chain n with
      | error e =>
        rw [hv] at h
        exact .inl (.inr ⟨hn, h⟩)
      | ok r =>
        rw [hv] at h
        exact .inr (ih h)

structure Trail (stored : Index Text) (chain ns trail : List Text) (n : Text) : Prop where
  starts : ∀ m ∈ (trail ++ [n]).head?, m ∈ ns
  linked : (trail ++ [n]).IsChain (Leads stored)
  distinct : (chain ++ trail).Nodup
  met : n ∈ chain ++ trail

lemma Trail.enter {v : Text} (hf : stored.find? m = some v) (hm : m ∈ ns)
    (h : Trail stored (chain ++ [m]) (names v) trail n) :
    Trail stored chain ns (m :: trail) n := by
  obtain ⟨hstarts, hlinked, hdistinct, hmet⟩ := h
  rw [List.append_assoc] at hdistinct hmet
  refine ⟨?_, ?_, hdistinct, hmet⟩
  · rintro k hk
    obtain rfl : m = k := by simpa using hk
    exact hm
  · exact .cons hlinked fun k hk => (leads_iff hf).mpr (hstarts k hk)

theorem exists_trail (chain ns : List Text) (t : Text) (hc : chain.Nodup)
    (h : (expand stored chain ns t).outcome = .error c) :
    ∃ trail n, Trail stored chain ns trail n ∧ c = cycle (chain ++ trail) n := by
  induction chain using chain_induction stored generalizing ns t with
  | step chain ih =>
    obtain ⟨m, hm, ⟨hmem, rfl⟩ | ⟨hmem, hv⟩⟩ := of_outcome_error h
    · refine ⟨[], m, ⟨?_, .singleton _, ?_, ?_⟩, by simp⟩
      · simpa using hm
      · simpa using hc
      · simpa using hmem
    · cases hf : stored.find? m with
      | none =>
        rw [value_of_none hf] at hv
        cases hv
      | some v =>
        rw [value_of_some hf] at hv
        have hnext : (chain ++ [m]).Nodup := by
          rw [← List.concat_eq_append]
          exact hc.concat hmem
        obtain ⟨trail, n, htrail, rfl⟩ := ih m v hf hmem _ _ hnext hv
        exact ⟨m :: trail, n, htrail.enter hf hm, by simp⟩

lemma Trail.reached (h : Trail stored chain (names t) trail n) (hm : m ∈ trail ++ [n]) :
    Reaches stored t m := by
  refine List.IsChain.induction (Reaches stored t) _ h.linked ?_ ?_ m hm
  · rintro k l hl ⟨j, hj, hk⟩
    exact ⟨j, hj, hk.tail hl⟩
  · intro hne
    exact ⟨_, h.starts _ (List.head?_eq_some_head hne), .refl⟩

def Refers (stored : Index Text) (origin : Option Text) (t n m : Text) : Prop :=
  if origin = some n then m ∈ names t else Leads stored n m

/-- A genuine cycle, with its first name once more at the end. Of the names before that one, the
origin can only be the first. -/
structure Circle (stored : Index Text) (origin : Option Text) (t : Text) (c : List Text) :
    Prop where
  closed : 2 ≤ c.length ∧ c.head? = c.getLast?
  distinct : c.dropLast.Nodup
  linked : c.IsChain (Refers stored origin t)
  origin_first : ∀ n ∈ c.dropLast.tail, origin ≠ some n
  reached : ∀ n ∈ c, origin = some n ∨ Reaches stored t n

structure Walk (stored : Index Text) (origin : Option Text) (t : Text) (walk : List Text)
    (n : Text) : Prop where
  linked : (walk ++ [n]).IsChain (Refers stored origin t)
  distinct : walk.Nodup
  origin_first : ∀ m ∈ walk.tail, origin ≠ some m
  reached : ∀ m ∈ walk ++ [n], origin = some m ∨ Reaches stored t m

lemma chain_of_origin (origin : Option Text) :
    origin.toList.filter (!·.isEmpty) = [] ∨
      ∃ o, origin = some o ∧ origin.toList.filter (!·.isEmpty) = [o] := by
  cases origin with
  | none => exact .inl rfl
  | some o =>
    cases o with
    | nil => exact .inl rfl
    | cons a o => exact .inr ⟨a :: o, rfl, rfl⟩

lemma Trail.walk (h : Trail stored (origin.toList.filter (!·.isEmpty)) (names t) trail n) :
    Walk stored origin t (origin.toList.filter (!·.isEmpty) ++ trail) n := by
  have hother (m : Text) (hm : m ∈ trail) : origin ≠ some m := by
    intro ho
    have hne := ne_nil_of_isName (isName_of_reaches (h.reached (List.mem_append_left _ hm)))
    exact (List.nodup_append.mp h.distinct).2.2 m ((mem_origin hne).mpr ho) m hm rfl
  have hrefers (m k : Text) (hm : m ∈ trail) (hk : Leads stored m k) :
      Refers stored origin t m k := by
    rwa [Refers, if_neg (hother m hm)]
  -- the name met again may be the origin, but nothing follows it
  have hlinked : (trail ++ [n]).IsChain (Refers stored origin t) := by
    obtain ⟨htrail, hlast, hjoin⟩ := List.isChain_append.mp h.linked
    refine List.isChain_append.mpr ⟨?_, .singleton n, fun m hm k hk => ?_⟩
    · exact htrail.imp_of_mem_imp fun m k hm _ hleads => hrefers m k hm hleads
    · exact hrefers m k (List.mem_of_mem_getLast? hm) (hjoin m hm k hk)
  rcases chain_of_origin origin with hnone | ⟨o, ho, hsome⟩
  · have hd := h.distinct
    rw [hnone] at hd ⊢
    exact ⟨hlinked, hd, fun m hm => hother m (List.mem_of_mem_tail hm),
      fun m hm => .inr (h.reached hm)⟩
  · have hd := h.distinct
    rw [hsome] at hd ⊢
    refine ⟨.cons hlinked fun m hm => ?_, hd, hother, fun m hm => ?_⟩
    · rw [Refers, if_pos ho]
      exact h.starts m hm
    · rcases List.mem_cons.mp hm with rfl | hm
      · exact .inl ho
      · exact .inr (h.reached hm)

lemma cycle_append {before after : List Text} (hn : n ∉ before) :
    cycle (before ++ n :: after) n = n :: (after ++ [n]) := by
  have hb : ∀ m ∈ before, (m != n) = true := fun m hm => by
    simpa using fun he : m = n => hn (he ▸ hm)
  simp [cycle, List.dropWhile_append_of_pos hb]

lemma Walk.circle {walk : List Text} (h : Walk stored origin t walk n) (hn : n ∈ walk) :
    Circle stored origin t (cycle walk n) := by
  obtain ⟨before, after, rfl, hb⟩ := List.eq_append_cons_of_mem hn
  obtain ⟨hlinked, hdistinct, horigin, hreached⟩ := h
  have hlast : (n :: (after ++ [n])).dropLast = n :: after := by
    rw [← List.cons_append, List.dropLast_concat]
  have hsuffix : n :: (after ++ [n]) <:+ before ++ n :: after ++ [n] := ⟨before, by simp⟩
  rw [cycle_append hb]
  refine ⟨⟨by simp, ?_⟩, ?_, hlinked.suffix hsuffix, ?_, ?_⟩
  · rw [← List.cons_append, List.getLast?_concat]
    rfl
  · rw [hlast]
    exact (List.nodup_append.mp hdistinct).2.1
  · rw [hlast]
    intro m hm
    refine horigin m ?_
    cases before with
    | nil => exact hm
    | cons b before => exact List.mem_append_right _ (List.mem_cons_of_mem _ hm)
  · exact fun m hm => hreached m (hsuffix.subset hm)

theorem resolve_error_circle (stored : Index Text) (origin : Option Text) (t : Text)
    (c : List Text) (h : (resolve stored origin t).outcome = .error c) :
    Circle stored origin t c := by
  have hchain : (origin.toList.filter (!·.isEmpty)).Nodup := by
    rcases chain_of_origin origin with hnone | ⟨o, _, hsome⟩
    · simp [hnone]
    · simp [hsome]
  obtain ⟨trail, n, htrail, rfl⟩ := exists_trail _ _ _ hchain h
  exact htrail.walk.circle htrail.met

theorem resolve_error_circle_origin :
    let ab := Text.ofChars ['A', 'B']
    let cd := Text.ofChars ['C', 'D']
    let ef := Text.ofChars ['E', 'F']
    let stored : Index Text := [(ab, Text.ofChars ['x']),
      (cd, Text.ofChars ['x', '$', '{', 'E', 'F', '}']),
      (ef, Text.ofChars ['$', 'G', 'H', '$', 'A', 'B'])]
    let t := Text.ofChars ['$', 'C', 'D']
    (resolve stored (some ab) t).outcome = .error [ab, cd, ef, ab] ∧
      Circle stored (some ab) t [ab, cd, ef, ab] := by
  intro ab cd ef stored t
  have h : (resolve stored (some ab) t).outcome = .error [ab, cd, ef, ab] := by cbv
  exact ⟨h, resolve_error_circle stored (some ab) t _ h⟩

end PropertyFile.Resolution
