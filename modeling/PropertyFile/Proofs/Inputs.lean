import PropertyFile.Proofs.Refusal
import PropertyFile.Reader

/-! Two inputs read one after the other end as one with all their lines does, if the second begins
with an entry. -/

namespace PropertyFile

def Error.renumbered (k : ℕ) : Error → Error
  | .config (.malformedLine number t) => .config (.malformedLine (k + number) t)
  | e => e

namespace Change

variable {c : Change} {f g : Store → Change} {k : ℕ}

def ending (c : Change) : Store × Option Error := (c.store, c.failure)

def renumbered (k : ℕ) (c : Change) : Change :=
  { c with failure := c.failure.map (Error.renumbered k) }

lemma ending_noting (n : Note) (c : Change) : (c.noting n).ending = c.ending := rfl

lemma andThen_noting (n : Note) (c : Change) (f : Store → Change) :
    (c.noting n).andThen f = (c.andThen f).noting n := by
  cases hc : c.failure <;> simp [andThen, noting, hc]

lemma andThen_done (c : Change) : c.andThen Store.done = c := by
  obtain ⟨s, failure, notes⟩ := c
  cases failure <;> simp [andThen, Store.done]

lemma andThen_assoc (c : Change) (f g : Store → Change) :
    (c.andThen f).andThen g = c.andThen fun s => (f s).andThen g := by
  cases hc : c.failure with
  | some e => simp [andThen, hc]
  | none => cases hf : (f c.store).failure <;> simp [andThen, hc, hf]

lemma andThen_congr (h : f c.store = g c.store) : c.andThen f = c.andThen g := by
  simp [andThen, h]

lemma andThen_of_some {e : Error} (h : c.failure = some e) : c.andThen f = c := by
  simp [andThen, h]

lemma ending_andThen (h : c.failure = none) : (c.andThen f).ending = (f c.store).ending := by
  simp [andThen, h, ending]

lemma ending_andThen_congr (h : ∀ s, (f s).ending = (g s).ending) :
    (c.andThen f).ending = (c.andThen g).ending := by
  cases hc : c.failure with
  | some e => rw [andThen_of_some hc, andThen_of_some hc]
  | none => rw [ending_andThen hc, ending_andThen hc, h]

lemma ending_andThen_renumbered (hc : c.failure.map (Error.renumbered k) = c.failure)
    (h : ∀ s, (f s).ending = ((g s).renumbered k).ending) :
    (c.andThen f).ending = ((c.andThen g).renumbered k).ending := by
  cases hf : c.failure with
  | some e =>
    rw [andThen_of_some hf, andThen_of_some hf, ending, ending, renumbered, hc]
  | none =>
    rw [ending_andThen hf, h]
    simp [andThen, hf, ending, renumbered]

end Change

namespace Store

open Line (begins bad significant)

variable {r : Registry} {s : Store} {pending : Option Entry} {k : ℕ} {ls ms : List Text}

lemma flush_renumbered (k : ℕ) (r : Registry) (s : Store) (pending : Option Entry) :
    (flush r s pending).failure.map (Error.renumbered k) = (flush r s pending).failure := by
  cases pending with
  | none => rfl
  | some e =>
    cases hd : r.declares e.name with
    | false =>
      rw [flush_unknown hd]
      rfl
    | true =>
      rw [flush_declared hd]
      rfl

lemma readFrom_renumbered (k number : ℕ) (pending : Option Entry) (s : Store) (ls : List Text) :
    (readFrom r none (k + number) pending s ls).ending =
      ((readFrom r none number pending s ls).renumbered k).ending := by
  induction ls generalizing number pending s with
  | nil => simp [readFrom, Change.ending, Change.renumbered, flush_renumbered]
  | cons l ls ih =>
    rw [readFrom, readFrom]
    cases Line.ofText l with
    | ignored => exact ih (number + 1) pending s
    | continuation t =>
      cases pending with
      | none => exact ih (number + 1) none s
      | some e => exact ih (number + 1) _ s
    | malformed t => rfl
    | entry e =>
      refine Change.ending_andThen_renumbered (flush_renumbered k r s pending) fun s => ?_
      exact ih (number + 1) (some e) s

def Starts (ms : List Text) : Prop :=
  ∀ t ∈ (significant ms).head?, begins t = true ∧ bad t = false

instance (ms : List Text) : Decidable (Starts ms) :=
  inferInstanceAs (Decidable (∀ t ∈ (significant ms).head?, begins t = true ∧ bad t = false))

lemma Starts.ofText {l : Text} (h : Starts (l :: ms)) :
    (Line.ofText l = .ignored ∧ Starts ms) ∨ ∃ e, Line.ofText l = .entry e := by
  by_cases hl : Line.ofText l = .ignored
  · rw [Starts, Line.significant_of_ignored hl] at h
    exact .inl ⟨hl, h⟩
  · rw [Starts, Line.significant_of_not_ignored hl] at h
    obtain ⟨hb, hbad⟩ := h _ rfl
    rw [Line.ofText_of_begins hb, hbad]
    exact .inr ⟨_, rfl⟩

lemma readFrom_starts (number : ℕ) (pending : Option Entry) (s : Store) (h : Starts ms) :
    (readFrom r none number pending s ms).ending =
      ((flush r s pending).andThen fun s => readFrom r none number none s ms).ending := by
  induction ms generalizing number with
  | nil => exact congrArg Change.ending (Change.andThen_done _).symm
  | cons l ms ih =>
    -- lines passed over do not touch the entry still open; the first entry stores it
    rcases h.ofText with ⟨hl, h⟩ | ⟨e, hl⟩
    · simp only [readFrom, hl, Change.ending_noting]
      rw [ih (number + 1) h]
      exact Change.ending_andThen_congr fun s => rfl
    · simp only [readFrom, hl]
      exact Change.ending_andThen_congr fun s => rfl

theorem readFrom_append (number : ℕ) (pending : Option Entry) (s : Store) (ls : List Text)
    (h : Starts ms) :
    (readFrom r none number pending s (ls ++ ms)).ending =
      ((readFrom r none number pending s ls).andThen fun s =>
        readFrom r none (number + ls.length) none s ms).ending := by
  induction ls generalizing number pending s with
  | nil => exact readFrom_starts number pending s h
  | cons l ls ih =>
    have hnumber : number + (l :: ls).length = number + 1 + ls.length := by
      rw [List.length_cons]
      omega
    rw [List.cons_append, readFrom, readFrom, hnumber]
    cases Line.ofText l with
    | ignored =>
      rw [Change.andThen_noting]
      exact ih (number + 1) pending s
    | continuation t =>
      cases pending with
      | none =>
        rw [Change.andThen_noting]
        exact ih (number + 1) none s
      | some e => exact ih (number + 1) _ s
    | malformed t => rfl
    | entry e =>
      rw [Change.andThen_assoc]
      exact Change.ending_andThen_congr fun s => ih (number + 1) (some e) s

lemma readLines_append (r : Registry) (s : Store) (ls : List Text) (h : Starts ms) :
    (readLinesUnder r s (ls ++ ms)).ending = ((readLinesUnder r s ls).andThen fun s =>
      (readLinesUnder r s ms).renumbered ls.length).ending := by
  refine (readFrom_append 1 none s ls h).trans (Change.ending_andThen_congr fun s => ?_)
  rw [Nat.add_comm]
  exact readFrom_renumbered ls.length 1 none s ms

lemma readFrom_dropped (number : ℕ) (s : Store) {cs : List Text} (ls : List Text)
    (h : ∀ c ∈ cs, begins (Text.trim c) = false) :
    (readFrom r none number none s (cs ++ ls)).ending =
      (readFrom r none (number + cs.length) none s ls).ending := by
  induction cs generalizing number with
  | nil => rfl
  | cons c cs ih =>
    obtain ⟨hc, hcs⟩ := List.forall_mem_cons.mp h
    have hnumber : number + (c :: cs).length = number + 1 + cs.length := by
      rw [List.length_cons]
      omega
    rw [List.cons_append, readFrom, hnumber]
    rcases Line.ofText_of_not_begins hc with hl | hl
    · rw [hl]
      exact ih (number + 1) hcs
    · rw [hl]
      exact ih (number + 1) hcs

lemma readLines_dropped (r : Registry) (s : Store) {cs : List Text} (ls : List Text)
    (h : ∀ c ∈ cs, begins (Text.trim c) = false) :
    (readLinesUnder r s (cs ++ ls)).ending =
      ((readLinesUnder r s ls).renumbered cs.length).ending := by
  refine (readFrom_dropped 1 s ls h).trans ?_
  rw [Nat.add_comm]
  exact readFrom_renumbered cs.length 1 none s ls

lemma Verdict.exists_take {opened : List (Text × ℕ)} {es : List Entry} {c : Change}
    (h : Verdict r opened es s c) (hc : c.failure ≠ none) :
    ∃ k, c.store = (es.take k).foldl record s := by
  by_cases hbad : ∃ b, firstBad opened = some b ∧ ∀ u, firstUnknown r opened = some u → b ≤ u + 1
  · obtain ⟨b, hb, hle⟩ := hbad
    obtain ⟨_, _, _, hs⟩ := h.bad b hb hle
    exact ⟨b - 1, hs⟩
  · push Not at hbad
    cases hu : firstUnknown r opened with
    | none =>
      have hb : firstBad opened = none := by
        rw [Option.eq_none_iff_forall_ne_some]
        intro b hb
        obtain ⟨u, hu', _⟩ := hbad b hb
        rw [hu] at hu'
        cases hu'
      exact absurd (h.accepts hb hu) hc
    | some u =>
      obtain ⟨_, _, _, hs⟩ := h.unknown u hu fun b hb => by
        obtain ⟨v, hv, hlt⟩ := hbad b hb
        rw [hu] at hv
        rwa [Option.some.inj hv]
      exact ⟨u, hs⟩

lemma exists_take (r : Registry) (s : Store) (ls : List Text) :
    ∃ k, (readLinesUnder r s ls).store = ((Entry.ofLines ls).take k).foldl record s := by
  cases hc : (readLinesUnder r s ls).failure with
  | none =>
    refine ⟨(Entry.ofLines ls).length, ?_⟩
    rw [List.take_length]
    exact store_readFrom 1 ls hc
  | some e =>
    have h : Verdict r (Line.openings ls) (Entry.ofLines ls) s (readLinesUnder r s ls) :=
      readFrom_verdict 1 none none s ls ⟨rfl, by simp⟩
    exact h.exists_take (by simp [hc])

end Store

namespace Reader

open Store (Starts record)

variable {p q : Reader} {s : Store} {c : Change} {number : ℕ} {l : Text} {ls : List Text}

lemma registry_line (p : Reader) (number : ℕ) (s : Store) (l : Text) :
    (p.line number s l).1.registry = p.registry := by
  unfold line
  split
  · rfl
  · split <;> rfl
  · rfl
  · dsimp only
    split <;> rfl

lemma registry_lines (p : Reader) (number : ℕ) (s : Store) (ls : List Text) :
    (p.lines number s ls).1.registry = p.registry := by
  induction ls generalizing p number s with
  | nil => rfl
  | cons l ls ih =>
    rw [lines]
    split
    · exact registry_line p number s l
    · exact (ih _ _ _).trans (registry_line p number s l)

lemma ended_of_some (h : p.line number s l = (q, c)) {e : Error} (hc : c.failure = some e) :
    ended (p.lines number s (l :: ls)) = c := by
  simp [lines, h, hc, ended, Change.andThen]

lemma ended_of_none (h : p.line number s l = (q, c)) (hc : c.failure = none) :
    ended (p.lines number s (l :: ls)) =
      c.andThen fun s => ended (q.lines (number + 1) s ls) := by
  have hlines : p.lines number s (l :: ls) =
      ((q.lines (number + 1) c.store ls).1,
        c.andThen fun _ => (q.lines (number + 1) c.store ls).2) := by simp [lines, h, hc]
  rw [hlines, ended, Change.andThen_assoc]
  exact Change.andThen_congr rfl

theorem ended_lines (r : Registry) (number : ℕ) (pending : Option Entry) (s : Store)
    (ls : List Text) :
    ended (lines ⟨r, pending⟩ number s ls) = Store.readFrom r none number pending s ls := by
  induction ls generalizing number pending s with
  | nil => rfl
  | cons l ls ih =>
    rw [Store.readFrom]
    cases hl : Line.ofText l with
    | ignored =>
      have hline : line ⟨r, pending⟩ number s l =
          (⟨r, pending⟩, s.done.noting (.ignoredLine number)) := by simp [line, hl]
      rw [ended_of_none hline rfl]
      exact congrArg (Change.noting _) (ih (number + 1) pending s)
    | continuation t =>
      cases pending with
      | none =>
        have hline : line ⟨r, none⟩ number s l =
            (⟨r, none⟩, s.done.noting (.droppedLine number)) := by simp [line, hl]
        rw [ended_of_none hline rfl]
        exact congrArg (Change.noting _) (ih (number + 1) none s)
      | some e =>
        have hline : line ⟨r, some e⟩ number s l = (⟨r, some (e.extend t)⟩, s.done) := by
          simp [line, hl, begun]
        rw [ended_of_none hline rfl]
        exact ih (number + 1) (some (e.extend t)) s
    | malformed t =>
      have hline : line ⟨r, pending⟩ number s l =
          (⟨r, pending⟩, s.failed (ConfigError.malformedLine number t)) := by simp [line, hl]
      rw [ended_of_some hline rfl]
    | entry e =>
      cases hf : (Store.flush r s pending).failure with
      | some x =>
        have hline : line ⟨r, pending⟩ number s l =
            (⟨r, pending⟩, Store.flush r s pending) := by simp [line, hl, hf]
        rw [ended_of_some hline hf]
        exact (Change.andThen_of_some hf).symm
      | none =>
        have hline : line ⟨r, pending⟩ number s l =
            (⟨r, some e⟩, Store.flush r s pending) := by simp [line, hl, hf, begun]
        rw [ended_of_none hline hf]
        simp only [ih]

theorem read_eq (p : Reader) (s : Store) (ls : List Text) :
    p.read s ls = (p.idle, Store.readLinesUnder p.registry s ls) := by
  have hidle : (p.idle.lines 1 s ls).1.idle = p.idle :=
    congrArg (fun r => Reader.mk r none) (registry_lines p.idle 1 s ls)
  exact Prod.ext hidle (ended_lines p.registry 1 none s ls)

theorem read_consecutive (p : Reader) (s : Store) (ls ms : List Text) :
    let first := p.read s ls
    let second := first.1.read first.2.store ms
    let whole := p.read s (ls ++ ms)
    (Starts ms →
      (∀ e, first.2.failure = some e →
        whole.2.failure = some e ∧ whole.2.store = first.2.store) ∧
      (first.2.failure = none → whole.2.store = second.2.store ∧
        whole.2.failure = second.2.failure.map (Error.renumbered ls.length))) ∧
    ∀ cs ks, ms = cs ++ ks → (∀ c ∈ cs, Line.begins (Text.trim c) = false) →
      let rest := first.1.read first.2.store ks
      second.2.store = rest.2.store ∧
      second.2.failure = rest.2.failure.map (Error.renumbered cs.length) ∧
      ∃ k, second.2.store = ((Entry.ofLines ks).take k).foldl record first.2.store := by
  intro first second whole
  simp only [first, second, whole, read_eq]
  refine ⟨fun h => ?_, ?_⟩
  · have happend := Store.readLines_append p.registry s ls h
    refine ⟨fun e he => ?_, fun hnone => ?_⟩
    · rw [Change.andThen_of_some he] at happend
      obtain ⟨hstore, hfailure⟩ := Prod.mk.inj happend
      exact ⟨hfailure.trans he, hstore⟩
    · rw [Change.ending_andThen hnone] at happend
      exact Prod.mk.inj happend
  · rintro cs ks rfl hcs
    have hdropped := Store.readLines_dropped p.registry
      (Store.readLinesUnder p.registry s ls).store ks hcs
    obtain ⟨hstore, hfailure⟩ := Prod.mk.inj hdropped
    obtain ⟨k, hk⟩ := Store.exists_take p.registry (Store.readLinesUnder p.registry s ls).store ks
    exact ⟨hstore, hfailure, k, hstore.trans hk⟩

theorem read_consecutive_dropped :
    let r : Registry :=
      ⟨[⟨Text.ofChars ['A', 'B'], false, [], rfl⟩, ⟨Text.ofChars ['C', 'D'], false, [], rfl⟩],
        by simp, by decide⟩
    let p : Reader := ⟨r, some ⟨Text.ofChars ['C', 'D'], Text.ofChars ['9']⟩⟩
    let ls := [Text.ofChars ['A', 'B', '=', '1'], Text.ofChars ['x']]
    let ms := [Text.ofChars ['#', ' ', 'y'], Text.ofChars ['C', 'D', '=', '2'],
      Text.ofChars ['A', 'B', '=', '3', '=', '4']]
    let bad := [Text.ofChars ['A', 'B', '=', '1'], Text.ofChars ['E', 'F', '=', '5']]
    let cs := [Text.ofChars ['z']]
    let ks := [Text.ofChars ['C', 'D', '=', '2']]
    (Starts ms ∧ (p.read (.empty r) ls).2.failure = none ∧
      (p.read (.empty r) (ls ++ ms)).2.failure =
        some (ConfigError.malformedLine 5 (Text.ofChars ['A', 'B', '=', '3', '=', '4']))) ∧
    (p.read (.empty r) bad).2.failure =
      some (ConfigError.unknownKey (Text.ofChars ['E', 'F'])) ∧
    ((p.read (.empty r) bad).1.read (p.read (.empty r) bad).2.store (cs ++ ks)).2.store.values =
      [(Text.ofChars ['A', 'B'], Text.ofChars ['1']),
        (Text.ofChars ['C', 'D'], Text.ofChars ['2'])] := by
  intro r p ls ms bad cs ks
  have hstarts : Starts ms := by decide
  have hfirst : (p.read (.empty r) ls).2.failure = none := by decide
  have hbad : (p.read (.empty r) bad).2.failure =
      some (ConfigError.unknownKey (Text.ofChars ['E', 'F'])) := by decide
  obtain ⟨-, hwhole⟩ := ((read_consecutive p (.empty r) ls ms).1 hstarts).2 hfirst
  obtain ⟨hstore, -⟩ := (read_consecutive p (.empty r) bad (cs ++ ks)).2 cs ks rfl (by decide)
  refine ⟨⟨hstarts, hfirst, hwhole.trans (by decide)⟩, hbad, ?_⟩
  rw [hstore]
  decide

end Reader

end PropertyFile
