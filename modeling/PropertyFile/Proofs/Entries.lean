import Mathlib.Data.List.SplitBy
import Mathlib.Tactic
import PropertyFile.Entry

/-! The entries of a property file without a reader: lines are grouped first, and every group is an
entry. -/

namespace PropertyFile

namespace Line

def passedOver (t : Text) : Bool := t.isEmpty || t.head? == some (.char '#')

def significant (ls : List Text) : List Text := (ls.map Text.trim).filter fun t => !passedOver t

def continues (t : Text) : Bool := !t.contains '='

def groups (ls : List Text) : List (List Text) :=
  ((significant ls).dropWhile continues).splitBy fun _ t => continues t

def joined (ts : List Text) : Text := ts.flatMap fun t => .char '\n' :: t

end Line

namespace Entry

def ofGroup? : List Text → Option Entry
  | [] => none
  | t :: ts => some ⟨Text.trim (Text.before '=' t), Text.trim (Text.after '=' t) ++ Line.joined ts⟩

def ofLines (ls : List Text) : List Entry := (Line.groups ls).filterMap ofGroup?

end Entry

namespace Line

variable {l t : Text} {ls ts : List Text}

lemma ofText_eq_ignored_iff : ofText l = .ignored ↔ passedOver (Text.trim l) = true := by
  constructor
  · intro h
    simp only [ofText, ofTrimmed] at h
    split at h
    · rename_i hp
      exact hp
    · split at h
      · cases h
      · split at h <;> cases h
  · intro h
    exact if_pos h

lemma ofText_continuation (h : ofText l = .continuation t) :
    t = Text.trim l ∧ continues t = true := by
  simp only [ofText, ofTrimmed] at h
  split at h
  · cases h
  · split at h
    · rename_i hc
      obtain rfl := Line.continuation.inj h
      exact ⟨rfl, hc⟩
    · split at h <;> cases h

lemma ofText_entry {e : Entry} (h : ofText l = .entry e) :
    continues (Text.trim l) = false ∧
      e = ⟨Text.trim (Text.before '=' (Text.trim l)),
        Text.trim (Text.after '=' (Text.trim l))⟩ := by
  simp only [ofText, ofTrimmed] at h
  split at h
  · cases h
  · split at h
    · cases h
    · rename_i hc
      split at h
      · cases h
      · exact ⟨by simpa [continues] using hc, (Line.entry.inj h).symm⟩

lemma significant_of_ignored (h : ofText l = .ignored) :
    significant (l :: ls) = significant ls := by
  simp [significant, ofText_eq_ignored_iff.mp h]

lemma significant_of_not_ignored (h : ofText l ≠ .ignored) :
    significant (l :: ls) = Text.trim l :: significant ls := by
  have hp : passedOver (Text.trim l) = false := by
    rw [ne_eq, ofText_eq_ignored_iff] at h
    simpa using h
  simp [significant, hp]

lemma isChain_continues (h : ∀ x ∈ ts, continues x = true) :
    (t :: ts).IsChain fun _ x => continues x := by
  induction ts generalizing t with
  | nil => simp
  | cons u ts ih =>
    rw [List.forall_mem_cons] at h
    exact List.isChain_cons_cons.mpr ⟨h.1, ih h.2⟩

lemma splitBy_cons (t : Text) (ts : List Text) :
    (t :: ts).splitBy (fun _ x => continues x) =
      (t :: ts.takeWhile continues) ::
        (ts.dropWhile continues).splitBy fun _ x => continues x := by
  have htake : ∀ x ∈ ts.takeWhile continues, continues x = true :=
    List.all_eq_true.mp List.all_takeWhile
  have hsplit : t :: ts = (t :: ts.takeWhile continues) ++ ts.dropWhile continues := by
    rw [List.cons_append, List.takeWhile_append_dropWhile]
  conv_lhs => rw [hsplit]
  -- the group ends in front of the next line with `=`
  rw [List.splitBy_append, List.splitBy_of_isChain (List.cons_ne_nil _ _) (isChain_continues htake)]
  · rfl
  · intro _ _ y hy
    have hd := List.head?_dropWhile_not continues ts
    rw [Option.mem_def.mp hy] at hd
    exact hd

end Line

namespace Entry

open Line (significant continues ofText joined)

variable {l t : Text} {ls : List Text} {e : Entry} {pending : Option Entry}

def closed (pending : Option Entry) (ls : List Text) : List Entry :=
  pending.toList.map fun e =>
    { e with value := e.value ++ joined ((significant ls).takeWhile continues) }

lemma closed_nil (pending : Option Entry) : closed pending [] = pending.toList := by
  cases pending <;> simp [closed, Line.significant, Line.joined]

lemma closed_of_ignored (h : ofText l = .ignored) :
    closed pending (l :: ls) = closed pending ls := by
  rw [closed, closed, Line.significant_of_ignored h]

lemma ofLines_of_ignored (h : ofText l = .ignored) : ofLines (l :: ls) = ofLines ls := by
  rw [ofLines, ofLines, Line.groups, Line.groups, Line.significant_of_ignored h]

lemma closed_of_continuation (h : ofText l = .continuation t) :
    closed (some e) (l :: ls) = closed (some (e.extend t)) ls := by
  obtain ⟨rfl, hc⟩ := Line.ofText_continuation h
  have hs : significant (l :: ls) = Text.trim l :: significant ls :=
    Line.significant_of_not_ignored (by simp [h])
  simp only [closed, hs, List.takeWhile_cons_of_pos hc, Option.toList_some, List.map_cons,
    List.map_nil, extend, joined, List.flatMap_cons]
  congr 2
  simp [Text.ofString, Text.ofChars]

lemma ofLines_of_continuation (h : ofText l = .continuation t) :
    ofLines (l :: ls) = ofLines ls := by
  obtain ⟨rfl, hc⟩ := Line.ofText_continuation h
  have hs : significant (l :: ls) = Text.trim l :: significant ls :=
    Line.significant_of_not_ignored (by simp [h])
  rw [ofLines, ofLines, Line.groups, Line.groups, hs, List.dropWhile_cons_of_pos hc]

lemma closed_of_entry (h : ofText l = .entry e) : closed pending (l :: ls) = pending.toList := by
  obtain ⟨hc, _⟩ := Line.ofText_entry h
  have hs : significant (l :: ls) = Text.trim l :: significant ls :=
    Line.significant_of_not_ignored (by simp [h])
  cases pending <;> simp [closed, hs, hc, joined]

lemma ofLines_of_entry (h : ofText l = .entry e) :
    ofLines (l :: ls) = closed (some e) ls ++ ofLines ls := by
  obtain ⟨hc, rfl⟩ := Line.ofText_entry h
  have hs : significant (l :: ls) = Text.trim l :: significant ls :=
    Line.significant_of_not_ignored (by simp [h])
  rw [ofLines, Line.groups, hs, List.dropWhile_cons_of_neg (by simp [hc]), Line.splitBy_cons]
  rfl

end Entry

namespace Store

open Entry (closed ofLines)

variable {r : Registry} {s : Store} {pending : Option Entry}

def record (s : Store) (e : Entry) : Store := (s.put e.name e.value).store

lemma setUnder_name (r : Registry) (s : Store) (name value : Text) :
    setUnder r s (.name name) value =
      if r.declares name then s.put name value else s.failed (ConfigError.unknownKey name) := by
  rw [← Registry.find?_isSome]
  cases hf : r.find? name with
  | none => simp [setUnder, Registry.require, KeyRef.name?, bind, Except.bind, hf]
  | some d =>
    simp [setUnder, Registry.require, KeyRef.name?, bind, Except.bind, hf,
      Registry.name_of_find? hf]

lemma store_setUnder {name value : Text} (h : (setUnder r s (.name name) value).failure = none) :
    (setUnder r s (.name name) value).store = (s.put name value).store := by
  rw [setUnder_name] at h ⊢
  split
  · rfl
  · rename_i hd
    rw [if_neg hd] at h
    cases h

lemma store_flush (h : (flush r s pending).failure = none) :
    (flush r s pending).store = pending.toList.foldl record s := by
  cases pending with
  | none => rfl
  | some e => exact store_setUnder h

lemma store_andThen {c : Change} {step : Store → Change} (h : (c.andThen step).failure = none) :
    c.failure = none ∧ (step c.store).failure = none ∧
      (c.andThen step).store = (step c.store).store := by
  unfold Change.andThen at h ⊢
  cases hc : c.failure with
  | some e =>
    rw [hc] at h
    exact absurd (h : c.failure = none) (by simp [hc])
  | none =>
    rw [hc] at h
    exact ⟨rfl, h, rfl⟩

theorem store_readFrom (number : ℕ) (ls : List Text)
    (h : (readFrom r none number pending s ls).failure = none) :
    (readFrom r none number pending s ls).store =
      (closed pending ls ++ ofLines ls).foldl record s := by
  induction ls generalizing number pending s with
  | nil =>
    rw [Entry.closed_nil]
    simpa [readFrom, ofLines, Line.groups, Line.significant] using store_flush h
  | cons l ls ih =>
    simp only [readFrom] at h ⊢
    cases hl : Line.ofText l with
    | ignored =>
      rw [hl] at h
      rw [Entry.closed_of_ignored hl, Entry.ofLines_of_ignored hl]
      exact ih _ h
    | continuation t =>
      rw [hl] at h
      rw [Entry.ofLines_of_continuation hl]
      cases pending with
      | none => exact ih _ h
      | some e =>
        rw [Entry.closed_of_continuation hl]
        exact ih _ h
    | malformed t =>
      rw [hl] at h
      cases h
    | entry e =>
      rw [hl] at h
      obtain ⟨hflush, hrest, hstore⟩ := store_andThen h
      rw [Entry.closed_of_entry hl, Entry.ofLines_of_entry hl, List.foldl_append,
        ← store_flush hflush]
      exact hstore.trans (ih _ hrest)

end Store

namespace Index

variable {m : Index Text} {n : Text}

lemma eraseDups_of_nodup {ns : List Text} (h : ns.Nodup) : ns.eraseDups = ns := by
  induction ns with
  | nil => rfl
  | cons n ns ih =>
    obtain ⟨hn, hns⟩ := List.nodup_cons.mp h
    have hf : ns.filter (fun k => !k == n) = ns := by
      refine List.filter_eq_self.mpr fun k hk => ?_
      have hne : k ≠ n := fun he => hn (he ▸ hk)
      simp [hne]
    rw [List.eraseDups_cons, hf, ih hns]

lemma eraseDups_of_mem {ms : List Text} (h : n ∈ ms) (ns : List Text) :
    (ms ++ n :: ns).eraseDups = (ms ++ ns).eraseDups := by
  rw [List.eraseDups_append, List.eraseDups_append, List.cons_removeAll]
  simp [h]

lemma eraseDups_names_put (m : Index Text) (n a : Text) (ns : List Text) :
    ((m.put n a).names ++ ns).eraseDups = (m.names ++ n :: ns).eraseDups := by
  rw [names_put]
  split
  · rename_i hc
    exact (eraseDups_of_mem (mem_names.mpr hc) ns).symm
  · simp

lemma names_foldl_put (hm : m.names.Nodup) (es : List Entry) :
    (es.foldl (fun m e => m.put e.name e.value) m).names =
      (m.names ++ es.map Entry.name).eraseDups := by
  induction es generalizing m with
  | nil => simp [eraseDups_of_nodup hm]
  | cons e es ih =>
    rw [List.foldl_cons, ih (nodup_names_put hm _ _), List.map_cons, eraseDups_names_put]

lemma find?_foldl_put (es : List Entry) :
    (es.foldl (fun m e => m.put e.name e.value) m).find? n =
      ((es.reverse.find? fun e => e.name == n).map Entry.value).or (m.find? n) := by
  induction es generalizing m with
  | nil => simp
  | cons e es ih =>
    rw [List.foldl_cons, ih, find?_put, List.reverse_cons, List.find?_append]
    by_cases he : e.name = n
    · cases hf : es.reverse.find? fun e => e.name == n <;> simp [he]
    · have hne : (e.name == n) = false := by simpa using he
      simp [he, hne]

end Index

namespace Store

variable {r : Registry} {s : Store}

lemma values_foldl_record (es : List Entry) :
    (es.foldl record s).values = es.foldl (fun m e => m.put e.name e.value) s.values := by
  induction es generalizing s with
  | nil => rfl
  | cons e es ih => exact ih

lemma registry_foldl_record (es : List Entry) :
    (es.foldl record s).registry = s.registry := by
  induction es generalizing s with
  | nil => rfl
  | cons e es ih => exact ih

theorem readLines_entries (r : Registry) (s : Store) (ls : List Text)
    (h : (readLinesUnder r s ls).failure = none) :
    (readLinesUnder r s ls).store = (Entry.ofLines ls).foldl record s ∧
    (readLinesUnder r s ls).store.values.names =
      (s.values.names ++ (Entry.ofLines ls).map Entry.name).eraseDups ∧
    ∀ n, (readLinesUnder r s ls).store.values.find? n =
      (((Entry.ofLines ls).reverse.find? fun e => e.name == n).map Entry.value).or
        (s.values.find? n) := by
  have hstore : (readLinesUnder r s ls).store = (Entry.ofLines ls).foldl record s :=
    store_readFrom 1 ls h
  refine ⟨hstore, ?_, fun n => ?_⟩
  · rw [hstore, values_foldl_record, Index.names_foldl_put s.nodup]
  · rw [hstore, values_foldl_record, Index.find?_foldl_put]

theorem readLines_entries_mixed :
    let r : Registry :=
      ⟨[⟨Text.ofChars ['A', 'B'], false, [], rfl⟩, ⟨Text.ofChars ['C', 'D'], true, [], rfl⟩],
        by simp, by decide⟩
    let s : Store := ⟨r, [(Text.ofChars ['C', 'D'], [])], by decide⟩
    let ls := [Text.ofChars ['x'], Text.ofChars ['C', 'D', '=', '2'], Text.ofChars ['#', ' ', 'y'],
      Text.ofChars [' ', 'A', 'B', ' ', '=', ' ', '1'], Text.ofChars ['z'],
      Text.ofChars ['C', 'D', '=', '3']]
    (readLinesUnder r s ls).failure = none ∧
    (readLinesUnder r s ls).store = (Entry.ofLines ls).foldl record s ∧
    (readLinesUnder r s ls).store.values.names =
      (s.values.names ++ (Entry.ofLines ls).map Entry.name).eraseDups ∧
    ∀ n, (readLinesUnder r s ls).store.values.find? n =
      (((Entry.ofLines ls).reverse.find? fun e => e.name == n).map Entry.value).or
        (s.values.find? n) := by
  intro r s ls
  have h : (readLinesUnder r s ls).failure = none := by decide
  exact ⟨h, readLines_entries r s ls h⟩

end Store

end PropertyFile
