import PropertyFile.Proofs.Expansion
import PropertyFile.Store

/-! Half way through the pass, a store expands as the raw one does, and the same names lead to
cycles. -/

namespace PropertyFile.Resolution

open Reference (pieces names Inert Separated names_inert separated_inert)
open Relation (ReflTransGen TransGen)

def Doomed (stored : Index Text) (n : Text) : Prop :=
  ∃ m, ReflTransGen (Leads stored) n m ∧ TransGen (Leads stored) m m

variable {stored old cur : Index Text} {done : List Text} {n m w r : Text}

lemma Doomed.of_path (h : ReflTransGen (Leads stored) n m) (hm : Doomed stored m) :
    Doomed stored n := by
  obtain ⟨k, hk, hc⟩ := hm
  exact ⟨k, h.trans hk, hc⟩

lemma doomed_of_cycle (h : TransGen (Leads stored) n n) : Doomed stored n := ⟨n, .refl, h⟩

lemma mem_names_of_doomed (h : Doomed stored n) : n ∈ stored.names := by
  obtain ⟨m, hm, hc⟩ := h
  obtain ⟨k, ⟨w, hw, _⟩, _⟩ := TransGen.head'_iff.mp (hc.trans_right hm)
  exact Index.mem_names.mpr (by simp [hw])

lemma cyclic_iff_doomed (h : stored.find? n = some w) :
    (∃ c, (resolve stored (some n) w).outcome = .error c) ↔ Doomed stored n := by
  rw [cyclic_iff]
  constructor
  · rintro ⟨m, hr, hm⟩
    have ht := (reaches_of_leads h).mp hr
    rcases hm with ho | hc
    · obtain rfl := Option.some.inj ho
      exact doomed_of_cycle ht
    · exact ⟨m, ht.to_reflTransGen, hc⟩
  · rintro ⟨m, hm, hc⟩
    rcases Relation.reflTransGen_iff_eq_or_transGen.mp hm with rfl | ht
    · exact ⟨m, (reaches_of_leads h).mpr hc, .inl rfl⟩
    · exact ⟨m, (reaches_of_leads h).mpr ht, .inr hc⟩

structure Cleared (old cur : Index Text) (done : List Text) : Prop where
  cleared : ∀ n ∈ done, ¬ Doomed old n ∧ ∃ r, cur.find? n = some r ∧ names r = []
  raw : ∀ n, n ∉ done → cur.find? n = old.find? n

namespace Cleared

lemma leads (h : Cleared old cur done) (hl : Leads cur n m) : Leads old n m := by
  obtain ⟨w, hw, hm⟩ := hl
  by_cases hn : n ∈ done
  · obtain ⟨_, r, hr, hnames⟩ := h.cleared n hn
    rw [hw] at hr
    obtain rfl := Option.some.inj hr
    simp [hnames] at hm
  · rw [h.raw n hn] at hw
    exact ⟨w, hw, hm⟩

lemma leads_of_doomed (h : Cleared old cur done) (hl : Leads old n m) (hd : Doomed old n) :
    Leads cur n m := by
  obtain ⟨w, hw, hm⟩ := hl
  have hn : n ∉ done := fun hn => (h.cleared n hn).1 hd
  exact ⟨w, by rw [h.raw n hn, hw], hm⟩

lemma path_of_doomed (h : Cleared old cur done) (hp : ReflTransGen (Leads old) n m)
    (hd : Doomed old m) : ReflTransGen (Leads cur) n m := by
  -- all names on the way are doomed, so they are still raw
  induction hp using ReflTransGen.head_induction_on with
  | refl => exact .refl
  | head hl hp ih => exact .head (h.leads_of_doomed hl (hd.of_path (.head hl hp))) ih

lemma doomed_iff (h : Cleared old cur done) : Doomed cur n ↔ Doomed old n := by
  constructor
  · rintro ⟨m, hm, hc⟩
    have hm' := ReflTransGen.mono (fun _ _ => h.leads) _ _ hm
    have hc' := TransGen.mono (fun _ _ => h.leads) _ _ hc
    exact ⟨m, hm', hc'⟩
  · rintro ⟨m, hm, hc⟩
    have hd := doomed_of_cycle hc
    obtain ⟨k, hl, hk⟩ := TransGen.head'_iff.mp hc
    exact ⟨m, h.path_of_doomed hm hd, .head' (h.leads_of_doomed hl hd) (h.path_of_doomed hk hd)⟩

lemma not_doomed_of_ok (h : Cleared old cur done) (hn : n ∉ done) (hw : old.find? n = some w)
    (hr : (resolve cur (some n) w).outcome = .ok r) : ¬ Doomed old n := by
  rw [← h.doomed_iff, ← cyclic_iff_doomed ((h.raw n hn).trans hw), hr]
  simp

end Cleared

/-- A store in the middle of the pass, beside the raw store. -/
structure Midway (old cur : Index Text) (done : List Text) : Prop where
  resolved : ∀ n ∈ done, ∃ w r, old.find? n = some w ∧ cur.find? n = some r ∧
    Expands old (pieces w) r ∧ Inert r ∧ ¬ Doomed old n
  raw : ∀ n, n ∉ done → cur.find? n = old.find? n

namespace Midway

lemma start (old : Index Text) : Midway old old [] := ⟨by simp, fun _ _ => rfl⟩

lemma of_mem_done (h : Midway old cur done) (hn : n ∈ done) (hr : cur.find? n = some r) :
    ∃ w, old.find? n = some w ∧ Expands old (pieces w) r ∧ Inert r := by
  obtain ⟨w, r', hw, hr', hexp, hinert, _⟩ := h.resolved n hn
  rw [hr] at hr'
  obtain rfl := Option.some.inj hr'
  exact ⟨w, hw, hexp, hinert⟩

lemma not_doomed (h : Midway old cur done) (hn : n ∈ done) : ¬ Doomed old n := by
  obtain ⟨_, _, _, _, _, _, hd⟩ := h.resolved n hn
  exact hd

lemma cleared (h : Midway old cur done) : Cleared old cur done := by
  refine ⟨fun n hn => ⟨h.not_doomed hn, ?_⟩, h.raw⟩
  obtain ⟨_, r, _, hr, _, hinert, _⟩ := h.resolved n hn
  exact ⟨r, hr, names_inert hinert⟩

lemma find?_none (h : Midway old cur done) (hn : cur.find? n = none) : old.find? n = none := by
  by_cases hd : n ∈ done
  · obtain ⟨_, r, _, hr, _⟩ := h.resolved n hd
    rw [hn] at hr
    cases hr
  · rwa [h.raw n hd] at hn

lemma expands (h : Midway old cur done) {ps : List Reference.Piece} {x : Text}
    (hx : Expands cur ps x) : Expands old ps x := by
  induction hx with
  | nil => exact .nil
  | plain _ ih => exact .plain ih
  | missing hf _ ih => exact .missing (h.find?_none hf) ih
  | @stored name _ v r _ _ hf hv _ ihv ih =>
    by_cases hd : name ∈ done
    · obtain ⟨w, hw, hexp, hinert⟩ := h.of_mem_done hd hf
      obtain rfl := hv.unique (expands_inert hinert)
      exact .stored hw hexp ih
    · rw [h.raw name hd] at hf
      exact .stored hf ihv ih

lemma separated (h : Midway old cur done)
    (hs : ∀ n w, old.find? n = some w → Separated (pieces w)) (hw : cur.find? n = some w) :
    Separated (pieces w) := by
  by_cases hd : n ∈ done
  · obtain ⟨_, _, _, hinert⟩ := h.of_mem_done hd hw
    exact separated_inert hinert
  · rw [h.raw n hd] at hw
    exact hs n w hw

lemma step (h : Midway old cur done) {cur' : Index Text}
    (hs : ∀ n w, old.find? n = some w → Separated (pieces w)) (hn : n ∉ done)
    (hw : old.find? n = some w) (hr : (resolve cur (some n) w).outcome = .ok r)
    (hnew : cur'.find? n = some r) (hsame : ∀ m, m ≠ n → cur'.find? m = cur.find? m) :
    Midway old cur' (done ++ [n]) := by
  obtain ⟨hexp, hinert⟩ :=
    expands_of_ok _ w r (hs n w hw) (fun _ _ _ hk => h.separated hs hk) hr
  have hsafe : ¬ Doomed old n := h.cleared.not_doomed_of_ok hn hw hr
  refine ⟨fun m hm => ?_, fun m hm => ?_⟩
  · rcases List.mem_append.mp hm with hm | hm
    · obtain ⟨w', r', hw', hr', hrest⟩ := h.resolved m hm
      refine ⟨w', r', hw', ?_, hrest⟩
      rw [hsame m fun he => hn (he ▸ hm), hr']
    · obtain rfl := List.mem_singleton.mp hm
      exact ⟨w, r, hw, hnew, h.expands hexp, hinert, hsafe⟩
  · rw [List.mem_append, not_or, List.mem_singleton] at hm
    rw [hsame m hm.2, h.raw m hm.1]

end Midway

def Links (stored : Index Text) (n m : Text) : Prop := Leads stored n m ∧ m ∈ stored.names

lemma cycle_links_iff : TransGen (Links stored) n n ↔ TransGen (Leads stored) n n := by
  constructor
  · exact TransGen.mono (fun _ _ h => h.1) _ _
  · intro h
    have hn := mem_names_of_doomed (doomed_of_cycle h)
    suffices ∀ m, TransGen (Leads stored) m n → TransGen (Links stored) m n from this n h
    intro m hm
    induction hm using TransGen.head_induction_on with
    | single hl => exact .single ⟨hl, hn⟩
    | @head m k hl hk ih =>
      obtain ⟨j, ⟨w, hw, _⟩, _⟩ := TransGen.head'_iff.mp hk
      exact .head ⟨hl, Index.mem_names.mpr (by simp [hw])⟩ ih

end PropertyFile.Resolution

namespace PropertyFile.Store

open Reference (pieces Separated)
open Relation (TransGen)
open Resolution

variable {r : Registry} {old resolved raw : Index Text}

lemma visible_of_declared {values : Index Text}
    (h : ∀ n ∈ values.names, r.declares n = true) : visible r values = values := by
  refine List.filter_eq_self.mpr fun e he => h e.1 ?_
  exact List.mem_map_of_mem he

lemma find?_visible (r : Registry) (m : Index Text) (name : Text) :
    (visible r m).find? name = if r.declares name then m.find? name else none :=
  Index.find?_filter r.declares m name

lemma find?_middle {n : Text} (hn : n ∉ resolved.names) (v : Text) (raw : Index Text) :
    Index.find? (resolved ++ (n, v) :: raw) n = some v := by
  have hnone : resolved.find? n = none := by
    rw [Index.mem_names, Option.not_isSome_iff_eq_none] at hn
    exact hn
  simp [Index.find?_append, hnone, Index.find?]

lemma find?_middle_of_ne {n m : Text} (hm : m ≠ n) (v : Text) :
    Index.find? (resolved ++ (n, v) :: raw) m = Index.find? (resolved ++ raw) m := by
  simp [Index.find?_append, Index.find?, hm.symm]

theorem resolveFrom_run {I : Index Text → List Text → Prop}
    (hI : ∀ {cur done}, I cur done → Cleared old cur done)
    (hstep : ∀ {cur cur' done n w x}, I cur done → n ∉ done → old.find? n = some w →
      (resolve cur (some n) w).outcome = .ok x → cur'.find? n = some x →
      (∀ m, m ≠ n → cur'.find? m = cur.find? m) → I cur' (done ++ [n]))
    (resolved : Index Text) (hd : ∀ n ∈ (resolved ++ raw).names, r.declares n = true)
    (hnd : (resolved ++ raw).names.Nodup) (h : I (resolved ++ raw) resolved.names) :
    ((resolveFrom r resolved raw).cycle = none →
      I (resolveFrom r resolved raw).values (resolved ++ raw).names) ∧
    ∀ c, (resolveFrom r resolved raw).cycle = some c → ∃ n, Doomed old n := by
  induction raw generalizing resolved with
  | nil => exact ⟨fun _ => by simpa [resolveFrom] using h, by simp [resolveFrom]⟩
  | cons e raw ih =>
    obtain ⟨n, v⟩ := e
    have hn : n ∉ resolved.names := Index.not_mem_front hnd
    have hfind := find?_middle hn v raw
    have hw : old.find? n = some v := by rw [← (hI h).raw n hn, hfind]
    simp only [resolveFrom, visible_of_declared hd]
    cases ho : (resolve (resolved ++ (n, v) :: raw) (some n) v).outcome with
    | error c =>
      refine ⟨by simp, fun _ _ => ⟨n, ?_⟩⟩
      exact (hI h).doomed_iff.mp ((cyclic_iff_doomed hfind).mp ⟨c, ho⟩)
    | ok t =>
      have hnames : ((resolved ++ [(n, t)]) ++ raw).names = (resolved ++ (n, v) :: raw).names := by
        simp [Index.names]
      have hnext : I ((resolved ++ [(n, t)]) ++ raw) (resolved ++ [(n, t)]).names := by
        rw [List.append_assoc, List.singleton_append, Index.names, List.map_append]
        refine hstep h hn hw ho (find?_middle hn t raw) fun m hm => ?_
        rw [find?_middle_of_ne hm, find?_middle_of_ne hm]
      have hrest := ih _ (by rwa [hnames]) (by rwa [hnames]) hnext
      rwa [hnames] at hrest

theorem resolveFrom_midway (resolved : Index Text)
    (hs : ∀ n w, old.find? n = some w → Separated (pieces w))
    (hd : ∀ n ∈ (resolved ++ raw).names, r.declares n = true)
    (hnd : (resolved ++ raw).names.Nodup) (h : Midway old (resolved ++ raw) resolved.names) :
    ((resolveFrom r resolved raw).cycle = none →
      Midway old (resolveFrom r resolved raw).values (resolved ++ raw).names) ∧
    ∀ c, (resolveFrom r resolved raw).cycle = some c → ∃ n, Doomed old n :=
  resolveFrom_run Midway.cleared (fun h hn hw hr hnew hsame => h.step hs hn hw hr hnew hsame)
    resolved hd hnd h

theorem resolveAll_cyclic_iff (s : Store)
    (hd : ∀ n ∈ s.values.names, s.registry.declares n = true)
    (hs : ∀ n w, s.values.find? n = some w → Separated (pieces w)) :
    ((∃ c, s.resolveAll.failure = some (ConfigError.cyclicReference c)) ↔
      ∃ n, TransGen (Links s.values) n n) ∧
    ((¬ ∃ n, TransGen (Links s.values) n n) →
      s.resolveAll.failure = none ∧ s.resolveAll.store.values.names = s.values.names ∧
      ∀ n w, s.values.find? n = some w →
        ∃ r, s.resolveAll.store.values.find? n = some r ∧
          ∀ x, Expands s.values (pieces w) x ↔ x = r) := by
  obtain ⟨hok, hcycle⟩ := resolveFrom_midway [] hs hd s.nodup (Midway.start s.values)
  have hfail : (∃ n, TransGen (Links s.values) n n) ↔
      ∃ c, (resolveFrom s.registry [] s.values).cycle = some c := by
    constructor
    · rintro ⟨n, hn⟩
      rw [cycle_links_iff] at hn
      apply Option.ne_none_iff_exists'.mp
      intro hnone
      have hd := doomed_of_cycle hn
      exact (hok hnone).not_doomed (mem_names_of_doomed hd) hd
    · rintro ⟨c, hc⟩
      obtain ⟨n, m, _, hm⟩ := hcycle c hc
      exact ⟨m, cycle_links_iff.mpr hm⟩
  refine ⟨?_, fun hacyclic => ?_⟩
  · rw [hfail]
    simp [resolveAll]
  · rw [hfail] at hacyclic
    have hnone : (resolveFrom s.registry [] s.values).cycle = none := by
      simpa [← Option.ne_none_iff_exists'] using hacyclic
    refine ⟨by simp [resolveAll, hnone], names_resolveFrom s.registry [] s.values, ?_⟩
    intro n w hw
    have hn : n ∈ s.values.names := Index.mem_names.mpr (by simp [hw])
    obtain ⟨w', r, hw', hr, hexp, _, _⟩ := (hok hnone).resolved n hn
    rw [hw] at hw'
    obtain rfl := Option.some.inj hw'
    refine ⟨r, hr, fun x => ⟨fun hx => hx.unique hexp, ?_⟩⟩
    rintro rfl
    exact hexp

theorem resolveAll_cyclic_iff_forward :
    let declared (name : List Char) (h : Text.blank (Text.ofChars name) = false) : Descriptor :=
      ⟨Text.ofChars name, false, [], h⟩
    let r : Registry :=
      ⟨[declared ['A', 'B'] rfl, declared ['C', 'D'] rfl, declared ['E', 'F'] rfl], by simp,
        by decide⟩
    let values : Index Text :=
      [(Text.ofChars ['A', 'B'], Text.ofChars ['$', 'C', 'D', ' ', '$', '{', 'E', 'F', '}']),
        (Text.ofChars ['C', 'D'], Text.ofChars ['5', '$', '1'])]
    let s : Store := ⟨r, values, by decide⟩
    ((∃ c, s.resolveAll.failure = some (ConfigError.cyclicReference c)) ↔
      ∃ n, TransGen (Links values) n n) ∧
    ((¬ ∃ n, TransGen (Links values) n n) →
      s.resolveAll.failure = none ∧ s.resolveAll.store.values.names = values.names ∧
      ∀ n w, values.find? n = some w →
        ∃ r, s.resolveAll.store.values.find? n = some r ∧
          ∀ x, Expands values (pieces w) x ↔ x = r) := by
  intro declared r values s
  have ha : pieces (Text.ofChars ['$', 'C', 'D', ' ', '$', '{', 'E', 'F', '}']) =
      [.reference (Text.ofChars ['C', 'D']) (Text.ofChars ['$', 'C', 'D']), .plain ' ',
        .reference (Text.ofChars ['E', 'F']) (Text.ofChars ['$', '{', 'E', 'F', '}'])] := by decide
  refine resolveAll_cyclic_iff s (by decide) fun n w hw => ?_
  simp only [s, values, Index.find?] at hw
  split at hw
  · obtain rfl := Option.some.inj hw
    simp [ha, Separated, Reference.Piece.name?]
  · split at hw
    · obtain rfl := Option.some.inj hw
      exact Reference.separated_price
    · cases hw

end PropertyFile.Store
