import PropertyFile.Proofs.Parts

/-! Stores that reading can produce, and the rows a listing prints of them: the rows read back. -/

namespace PropertyFile.Store

open Line (Part Front IsValue joined)
open Text (Unbroken isBreak)
open Entry (closed ofLines)

variable {r : Registry} {s : Store} {pending : Option Entry}

lemma flush_ok (h : ∀ e ∈ pending, r.declares e.name = true) :
    (flush r s pending).failure = none ∧
      (flush r s pending).store = pending.toList.foldl record s := by
  cases pending with
  | none => exact ⟨rfl, rfl⟩
  | some e =>
    rw [flush_declared (h e rfl)]
    exact ⟨rfl, rfl⟩

lemma andThen_of_none {c : Change} (step : Store → Change) (h : c.failure = none) :
    (c.andThen step).failure = (step c.store).failure ∧
      (c.andThen step).store = (step c.store).store := by
  simp [Change.andThen, h]

lemma extend_eq (e : Entry) (q : Text) : e.extend q = ⟨e.name, e.value ++ .char '\n' :: q⟩ := by
  simp [Entry.extend, Text.ofString, Text.ofChars]

lemma readFrom_indented (number : ℕ) (e : Entry) (s : Store) {ps : List Text} (ls : List Text)
    (hps : ∀ q ∈ ps, Front q) :
    readFrom r none number (some e) s (ps.map (Listing.indent ++ ·) ++ ls) =
      readFrom r none (number + ps.length) (some ⟨e.name, e.value ++ joined ps⟩) s ls := by
  induction ps generalizing number e with
  | nil => simp [joined]
  | cons q ps ih =>
    obtain ⟨hq, hps⟩ := List.forall_mem_cons.mp hps
    have hvalue : e.value ++ .char '\n' :: q ++ joined ps = e.value ++ joined (q :: ps) := by
      simp [joined]
    have hnumber : number + 1 + ps.length = number + (q :: ps).length := by
      rw [List.length_cons]
      omega
    rw [List.map_cons, List.cons_append, readFrom, Line.ofText_indented hq]
    simp only [extend_eq, ih (number + 1) _ hps, hvalue, hnumber]

def entries (m : Index Text) : List Entry := m.map fun p => ⟨p.1, p.2⟩

theorem readFrom_rows (number : ℕ) (pending : Option Entry) (s : Store) (m : Index Text)
    (hpending : ∀ e ∈ pending, r.declares e.name = true)
    (hm : ∀ p ∈ m, r.declares p.1 = true ∧ Front p.1 ∧ IsValue p.2) :
    (readFrom r none number pending s (Text.lines isBreak (Listing.rows m))).failure = none ∧
      (readFrom r none number pending s (Text.lines isBreak (Listing.rows m))).store =
        (pending.toList ++ entries m).foldl record s := by
  induction m generalizing number pending s with
  | nil => simpa [Listing.rows, Text.lines, readFrom, entries] using flush_ok hpending
  | cons p m ih =>
    obtain ⟨name, v⟩ := p
    obtain ⟨⟨hd, hn, hv⟩, hrest⟩ := List.forall_mem_cons.mp hm
    obtain ⟨x, ps, rfl, hx, hps⟩ := Line.isValue_iff.mp hv
    have hlines : Text.lines isBreak (Listing.rows ((name, x ++ joined ps) :: m)) =
        (name ++ " = " ++ x) :: (ps.map (Listing.indent ++ ·) ++
          Text.lines isBreak (Listing.rows m)) := Listing.lines_row hn hx hps _
    have hread (s : Store) : readFrom r none (number + 1) (some ⟨name, x⟩) s
        (ps.map (Listing.indent ++ ·) ++ Text.lines isBreak (Listing.rows m)) =
          readFrom r none (number + 1 + ps.length) (some ⟨name, x ++ joined ps⟩) s
            (Text.lines isBreak (Listing.rows m)) := readFrom_indented _ _ _ _ hps
    obtain ⟨hf, hs⟩ := flush_ok (s := s) hpending
    obtain ⟨hfail, hstore⟩ := ih (number + 1 + ps.length) (some ⟨name, x ++ joined ps⟩)
      (flush r s pending).store (by simpa using hd) hrest
    simp only [hlines, readFrom, Line.ofText_assignment hn hx, hread]
    obtain ⟨hfail', hstore'⟩ := andThen_of_none (fun s =>
      readFrom r none (number + 1 + ps.length) (some ⟨name, x ++ joined ps⟩) s
        (Text.lines isBreak (Listing.rows m))) hf
    refine ⟨hfail'.trans hfail, ?_⟩
    rw [hstore', hstore, hs, ← List.foldl_append]
    rfl

structure Legible (r : Registry) (m : Index Text) : Prop where
  nodup : m.names.Nodup
  declared : ∀ p ∈ m, r.declares p.1 = true
  name : ∀ p ∈ m, Front p.1
  value : ∀ p ∈ m, IsValue p.2

lemma mem_put {m : Index Text} {n v : Text} {p : Text × Text} (h : p ∈ m.put n v) :
    p ∈ m ∨ p = (n, v) := by
  induction m with
  | nil => exact .inr (List.mem_singleton.mp h)
  | cons q m ih =>
    rw [Index.put] at h
    split at h
    · rename_i hq
      rcases List.mem_cons.mp h with rfl | h
      · exact .inr (by rw [hq])
      · exact .inl (List.mem_cons_of_mem _ h)
    · rcases List.mem_cons.mp h with rfl | h
      · exact .inl List.mem_cons_self
      · exact (ih h).imp_left (List.mem_cons_of_mem _)

lemma Legible.put {m : Index Text} {n v : Text} (h : Legible r m) (hd : r.declares n = true)
    (hn : Front n) (hv : IsValue v) : Legible r (m.put n v) where
  nodup := Index.nodup_names_put h.nodup n v
  declared p hp := (mem_put hp).elim (h.declared p) fun he => he ▸ hd
  name p hp := (mem_put hp).elim (h.name p) fun he => he ▸ hn
  value p hp := (mem_put hp).elim (h.value p) fun he => he ▸ hv

lemma flush_legible (h : Legible r s.values)
    (hpending : ∀ e ∈ pending, Front e.name ∧ IsValue e.value) :
    Legible r (flush r s pending).store.values := by
  cases pending with
  | none => exact h
  | some e =>
    obtain ⟨hn, hv⟩ := hpending e rfl
    cases hd : r.declares e.name with
    | false =>
      rw [flush_unknown hd]
      exact h
    | true =>
      rw [flush_declared hd]
      exact h.put hd hn hv

theorem readFrom_legible (number : ℕ) {s : Store} {ls : List Text} (h : Legible r s.values)
    (hpending : ∀ e ∈ pending, Front e.name ∧ IsValue e.value) (hls : ∀ l ∈ ls, Unbroken l) :
    Legible r (readFrom r none number pending s ls).store.values := by
  induction ls generalizing number pending s with
  | nil => exact flush_legible h hpending
  | cons l ls ih =>
    obtain ⟨hl, hrest⟩ := List.forall_mem_cons.mp hls
    rw [readFrom]
    cases ht : Line.ofText l with
    | ignored => exact ih (number + 1) h hpending hrest
    | continuation t =>
      cases pending with
      | none => exact ih (number + 1) h hpending hrest
      | some e =>
        obtain ⟨hn, hv⟩ := hpending e rfl
        have hextend : IsValue (e.extend t).value := by
          rw [extend_eq]
          exact hv.extend (Line.front_of_continuation hl ht)
        exact ih (number + 1) h (by simpa using ⟨hn, hextend⟩) hrest
    | malformed t => exact h
    | entry e =>
      obtain ⟨hn, hv⟩ := Line.parts_of_entry hl ht
      have hflush := flush_legible h hpending
      simp only [Change.andThen]
      split
      · exact hflush
      · exact ih (number + 1) hflush (by simpa using ⟨hn, Line.isValue_of_part hv⟩) hrest

lemma store_ext {s' : Store} (hr : s.registry = s'.registry) (hv : s.values = s'.values) :
    s = s' := by
  cases s
  cases s'
  obtain rfl := hr
  obtain rfl := hv
  rfl

lemma put_of_not_mem {m : Index Text} {n : Text} (h : n ∉ m.names) (v : Text) :
    m.put n v = m ++ [(n, v)] := by
  induction m with
  | nil => rfl
  | cons p m ih =>
    simp only [Index.names, List.map_cons, List.mem_cons, not_or] at h
    rw [Index.put, if_neg (Ne.symm h.1), ih h.2]
    rfl

lemma foldl_put_entries {m k : Index Text} (h : (m ++ k).names.Nodup) :
    (entries k).foldl (fun m e => m.put e.name e.value) m = m ++ k := by
  induction k generalizing m with
  | nil => simp [entries]
  | cons p k ih =>
    have hp : p.1 ∉ m.names := Index.not_mem_front h
    have hsplit : m ++ p :: k = (m ++ [p]) ++ k := by simp
    rw [hsplit] at h ⊢
    rw [← ih h, entries, List.map_cons, List.foldl_cons, put_of_not_mem hp]
    rfl

lemma readText_rows {m : Index Text} (h : Legible r m) :
    ((empty r).readText (Listing.rows m)).failure = none ∧
      ((empty r).readText (Listing.rows m)).store = (entries m).foldl record (empty r) ∧
      ((empty r).readText (Listing.rows m)).store.values = m := by
  obtain ⟨hf, hs⟩ := readFrom_rows 1 none (empty r) m (by simp)
    fun p hp => ⟨h.declared p hp, h.name p hp, h.value p hp⟩
  have hstore : ((empty r).readText (Listing.rows m)).store = (entries m).foldl record (empty r) :=
    hs
  refine ⟨hf, hstore, ?_⟩
  rw [hstore, values_foldl_record]
  exact foldl_put_entries (m := []) h.nodup

lemma readText_legible (r : Registry) (t : Text) :
    Legible r ((empty r).readText t).store.values :=
  readFrom_legible 1 ⟨List.nodup_nil, by simp [empty], by simp [empty], by simp [empty]⟩ (by simp)
    (Text.unbroken_of_mem_lines t)

theorem readText_iff_legible (r : Registry) :
    (∀ m : Index Text, (∃ t, ((empty r).readText t).failure = none ∧
      ((empty r).readText t).store.values = m) ↔ Legible r m) ∧
    (∀ m, Legible r m → ((empty r).readText (Listing.rows m)).failure = none ∧
      ((empty r).readText (Listing.rows m)).store.values = m) ∧
    ∀ t, ((empty r).readText t).failure = none →
      let s := ((empty r).readText t).store
      ((empty r).readText (Listing.rows s.values)).failure = none ∧
        ((empty r).readText (Listing.rows s.values)).store = s := by
  refine ⟨fun m => ⟨?_, fun h => ?_⟩, fun m h => ?_, fun t ht => ?_⟩
  · rintro ⟨t, _, rfl⟩
    exact readText_legible r t
  · obtain ⟨hf, _, hv⟩ := readText_rows h
    exact ⟨_, hf, hv⟩
  · obtain ⟨hf, _, hv⟩ := readText_rows h
    exact ⟨hf, hv⟩
  · obtain ⟨hf, hs, hv⟩ := readText_rows (readText_legible r t)
    refine ⟨hf, ?_⟩
    have ht' : ((empty r).readText t).store =
        (closed none (Text.lines isBreak t) ++ ofLines (Text.lines isBreak t)).foldl record
          (empty r) := store_readFrom 1 _ ht
    have hregistry : ((empty r).readText t).store.registry = r := by
      rw [ht', registry_foldl_record]
      rfl
    apply store_ext
    · rw [hs, registry_foldl_record, hregistry]
      rfl
    · exact hv

end PropertyFile.Store
