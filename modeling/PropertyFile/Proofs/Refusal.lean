import PropertyFile.Proofs.Entries

/-! A bad line is refused when it is met, an undeclared key only when its entry ends. -/

namespace PropertyFile

namespace Line

def begins (t : Text) : Bool := t.head? != some (.char '#') && t.contains (.char '=')

def openingsFrom (number : ℕ) (ls : List Text) : List (Text × ℕ) :=
  ((ls.map Text.trim).zipIdx number).filter fun p => begins p.1

def openings (ls : List Text) : List (Text × ℕ) := openingsFrom 1 ls

def key (t : Text) : Text := Text.trim (Text.before '=' t)

def bad (t : Text) : Bool := decide (1 < t.count (.char '=')) || Text.blank (Text.before '=' t)

def unknown (r : Registry) (t : Text) : Bool := !bad t && !r.declares (key t)

variable {l t : Text} {ls : List Text}

lemma contains_after (c : CodePoint) (t : Text) :
    (Text.after c t).contains c = decide (1 < t.count c) := by
  induction t with
  | nil => rfl
  | cons d t ih =>
    rw [Bool.eq_iff_iff] at ih ⊢
    by_cases hd : d = c
    · simp [Text.after, hd, List.count_pos_iff]
    · simpa [Text.after, hd] using ih

lemma begins_iff : begins t = true ↔ passedOver t = false ∧ continues t = false := by
  rw [begins, continues, Bool.and_eq_true, Bool.not_eq_false']
  cases t with
  | nil => simp [passedOver]
  | cons c t => simp [passedOver]

lemma openingsFrom_cons (number : ℕ) (l : Text) (ls : List Text) :
    openingsFrom number (l :: ls) =
      (if begins (Text.trim l) then [(Text.trim l, number)] else []) ++
        openingsFrom (number + 1) ls := by
  rw [openingsFrom, List.map_cons, List.zipIdx_cons, List.filter_cons]
  split <;> rfl

lemma ofText_of_not_begins (h : begins (Text.trim l) = false) :
    ofText l = .ignored ∨ ofText l = .continuation (Text.trim l) := by
  cases hp : passedOver (Text.trim l) with
  | true => exact .inl (ofText_eq_ignored_iff.mpr hp)
  | false =>
    have hc : continues (Text.trim l) = true := by
      by_contra hc
      have hb := begins_iff.mpr ⟨hp, by simpa using hc⟩
      rw [h] at hb
      cases hb
    exact .inr ((if_neg (by simpa [passedOver] using hp)).trans (if_pos hc))

lemma ofText_of_begins (h : begins (Text.trim l) = true) :
    ofText l =
      if bad (Text.trim l) then .malformed (Text.trim l)
      else .entry ⟨key (Text.trim l), Text.trim (Text.after (.char '=') (Text.trim l))⟩ := by
  obtain ⟨hp, hc⟩ := begins_iff.mp h
  rw [continues] at hc
  have hno : ¬ (!(Text.trim l).contains (.char '=')) = true := by
    rw [hc]
    exact Bool.false_ne_true
  have hbad : bad (Text.trim l) = ((sides (Text.trim l)).2.contains (.char '=') ||
      Text.blank (sides (Text.trim l)).1) := by
    rw [bad, sides, contains_after]
  simp only [ofText, ofTrimmed, hbad]
  rw [if_neg (by simpa [passedOver] using hp), if_neg hno]
  rfl

end Line

namespace Entry

open Line (begins key continues significant joined openingsFrom)

variable {l : Text} {ls : List Text}

lemma ofLines_of_begins (h : begins (Text.trim l) = true) :
    ofLines (l :: ls) =
      ⟨key (Text.trim l), Text.trim (Text.after (.char '=') (Text.trim l)) ++
        joined ((significant ls).takeWhile continues)⟩ :: ofLines ls := by
  obtain ⟨hp, hc⟩ := Line.begins_iff.mp h
  have hs : significant (l :: ls) = Text.trim l :: significant ls := by simp [significant, hp]
  rw [ofLines, Line.groups, hs, List.dropWhile_cons_of_neg (by simp [hc]), Line.splitBy_cons]
  rfl

lemma ofLines_of_not_begins (h : begins (Text.trim l) = false) :
    ofLines (l :: ls) = ofLines ls := by
  rcases Line.ofText_of_not_begins h with hl | hl
  · exact ofLines_of_ignored hl
  · exact ofLines_of_continuation hl

lemma names_ofLines (number : ℕ) (ls : List Text) :
    (ofLines ls).map Entry.name = (openingsFrom number ls).map fun p => key p.1 := by
  induction ls generalizing number with
  | nil => rfl
  | cons l ls ih =>
    rw [Line.openingsFrom_cons]
    cases hb : begins (Text.trim l) with
    | false => simpa [ofLines_of_not_begins hb] using ih (number + 1)
    | true => simpa [ofLines_of_begins hb] using ih (number + 1)

end Entry

namespace Store

open Entry (closed ofLines)
open Line (bad unknown key openingsFrom)

variable {r : Registry} {s : Store} {c : Change} {e : Entry} {p : Text × ℕ}
  {opened : List (Text × ℕ)} {es : List Entry}

def firstBad (opened : List (Text × ℕ)) : Option ℕ := opened.findIdx? fun p => bad p.1

def firstUnknown (r : Registry) (opened : List (Text × ℕ)) : Option ℕ :=
  opened.findIdx? fun p => unknown r p.1

/-- How a reading from `s` ends, given the lines that begin entries and the entries themselves. -/
structure Verdict (r : Registry) (opened : List (Text × ℕ)) (es : List Entry) (s : Store)
    (c : Change) : Prop where
  accepts : firstBad opened = none → firstUnknown r opened = none → c.failure = none
  unknown : ∀ u, firstUnknown r opened = some u → (∀ b, firstBad opened = some b → u + 1 < b) →
    ∃ p, opened[u]? = some p ∧ c.failure = some (ConfigError.unknownKey (key p.1)) ∧
      c.store = (es.take u).foldl record s
  bad : ∀ b, firstBad opened = some b → (∀ u, firstUnknown r opened = some u → b ≤ u + 1) →
    ∃ p, opened[b]? = some p ∧ c.failure = some (ConfigError.malformedLine p.2 p.1) ∧
      c.store = (es.take (b - 1)).foldl record s

lemma firstBad_cons (h : bad p.1 = false) :
    firstBad (p :: opened) = (firstBad opened).map (· + 1) := by
  simp [firstBad, List.findIdx?_cons, h]

lemma firstBad_pos (h : ∀ p ∈ opened.head?, bad p.1 = false) : firstBad opened ≠ some 0 := by
  intro hb
  cases opened with
  | nil => cases hb
  | cons p opened =>
    rw [firstBad_cons (h p rfl)] at hb
    simp at hb

namespace Verdict

lemma congr {c' : Change} (h : Verdict r opened es s c) (hf : c'.failure = c.failure)
    (hs : c'.store = c.store) : Verdict r opened es s c' where
  accepts := by
    rw [hf]
    exact h.accepts
  unknown := by
    rw [hf, hs]
    exact h.unknown
  bad := by
    rw [hf, hs]
    exact h.bad

lemma cons (hb : Line.bad p.1 = false) (hu : Line.unknown r p.1 = false)
    (hn : ∀ q ∈ opened.head?, Line.bad q.1 = false) (h : Verdict r opened es (record s e) c) :
    Verdict r (p :: opened) (e :: es) s c := by
  have hu' : firstUnknown r (p :: opened) = (firstUnknown r opened).map (· + 1) := by
    simp [firstUnknown, List.findIdx?_cons, hu]
  refine ⟨?_, ?_, ?_⟩
  · rw [firstBad_cons hb, hu', Option.map_eq_none_iff, Option.map_eq_none_iff]
    exact h.accepts
  · intro u hu hlt
    rw [hu'] at hu
    obtain ⟨v, hv, rfl⟩ := Option.map_eq_some_iff.mp hu
    refine h.unknown v hv fun b hb' => ?_
    have := hlt (b + 1) (by rw [firstBad_cons hb, hb']; rfl)
    omega
  · intro b hb' hle
    rw [firstBad_cons hb] at hb'
    obtain ⟨a, ha, rfl⟩ := Option.map_eq_some_iff.mp hb'
    obtain ⟨q, hq, hf, hs⟩ := h.bad a ha fun u hu => by
      have := hle (u + 1) (by rw [hu', hu]; rfl)
      omega
    have hpos : a ≠ 0 := by
      rintro rfl
      exact firstBad_pos hn ha
    obtain ⟨k, rfl⟩ := Nat.exists_eq_succ_of_ne_zero hpos
    exact ⟨q, hq, hf, hs⟩

lemma of_unknown (hu : Line.unknown r p.1 = true)
    (hn : ∀ q ∈ opened.head?, Line.bad q.1 = false)
    (hf : c.failure = some (ConfigError.unknownKey (key p.1))) (hs : c.store = s) :
    Verdict r (p :: opened) es s c := by
  have hb : Line.bad p.1 = false := by
    simp only [Line.unknown, Bool.and_eq_true, Bool.not_eq_true'] at hu
    exact hu.1
  have hu' : firstUnknown r (p :: opened) = some 0 := by
    simp [firstUnknown, List.findIdx?_cons, hu]
  refine ⟨?_, ?_, ?_⟩
  · intro _ h
    rw [hu'] at h
    cases h
  · intro u h _
    rw [hu'] at h
    obtain rfl := Option.some.inj h
    exact ⟨p, rfl, hf, by simpa using hs⟩
  · intro b h hle
    rw [firstBad_cons hb] at h
    obtain ⟨a, ha, rfl⟩ := Option.map_eq_some_iff.mp h
    have hle := hle 0 hu'
    obtain rfl : a = 0 := by omega
    exact absurd ha (firstBad_pos hn)

lemma of_bad {pending : Option (Text × ℕ)} (hpending : ∀ q ∈ pending, Line.bad q.1 = false)
    (hb : Line.bad p.1 = true)
    (hf : c.failure = some (ConfigError.malformedLine p.2 p.1)) (hs : c.store = s) :
    Verdict r (pending.toList ++ p :: opened) es s c := by
  have hfirst : firstBad (p :: opened) = some 0 := by
    simp [firstBad, List.findIdx?_cons, hb]
  have hall : firstBad (pending.toList ++ p :: opened) = some pending.toList.length := by
    cases pending with
    | none => exact hfirst
    | some q =>
      rw [Option.toList_some, List.singleton_append, firstBad_cons (hpending q rfl), hfirst]
      rfl
  have hone : pending.toList.length ≤ 1 := by cases pending <;> simp
  refine ⟨?_, ?_, ?_⟩
  · intro h
    rw [hall] at h
    cases h
  · intro u _ hlt
    have := hlt _ hall
    omega
  · intro b h _
    rw [hall] at h
    obtain rfl := Option.some.inj h
    have htake : es.take (pending.toList.length - 1) = [] := by
      rw [Nat.sub_eq_zero_of_le hone, List.take_zero]
    exact ⟨p, by simp, hf, by rw [htake, hs]; rfl⟩

lemma of_accepted (h : Verdict r opened es s c) (hc : c.failure = none) :
    firstBad opened = none ∧ firstUnknown r opened = none := by
  cases hu : firstUnknown r opened with
  | none =>
    cases hb : firstBad opened with
    | none => exact ⟨rfl, rfl⟩
    | some b =>
      obtain ⟨p, _, hf, _⟩ := h.bad b hb (by simp [hu])
      simp [hc] at hf
  | some u =>
    by_cases hlt : ∀ b, firstBad opened = some b → u + 1 < b
    · obtain ⟨p, _, hf, _⟩ := h.unknown u hu hlt
      simp [hc] at hf
    · push Not at hlt
      obtain ⟨b, hb, hle⟩ := hlt
      obtain ⟨p, _, hf, _⟩ := h.bad b hb fun v hv => by
        rw [hu] at hv
        rwa [← Option.some.inj hv]
      simp [hc] at hf

end Verdict

lemma flush_unknown {r : Registry} {s : Store} {e : Entry} (h : r.declares e.name = false) :
    flush r s (some e) = s.failed (ConfigError.unknownKey e.name) := by
  rw [flush, setUnder_name, h]
  rfl

lemma flush_declared {r : Registry} {s : Store} {e : Entry} (h : r.declares e.name = true) :
    flush r s (some e) = s.put e.name e.value := by
  rw [flush, setUnder_name, if_pos h]

def Begins (pending : Option Entry) (begun : Option (Text × ℕ)) : Prop :=
  pending.map Entry.name = begun.map (fun p => key p.1) ∧ ∀ p ∈ begun, Line.bad p.1 = false

lemma verdict_andThen {pending : Option Entry} {begun : Option (Text × ℕ)} {step : Store → Change}
    (h : Begins pending begun) (hn : ∀ q ∈ opened.head?, Line.bad q.1 = false)
    (hstep : ∀ s, Verdict r opened es s (step s)) :
    Verdict r (begun.toList ++ opened) (pending.toList ++ es) s
      ((flush r s pending).andThen step) := by
  obtain ⟨hname, hbad⟩ := h
  cases pending with
  | none =>
    obtain rfl : begun = none := by simpa using hname.symm
    exact (hstep s).congr rfl rfl
  | some e =>
    obtain ⟨p, rfl, hp⟩ := Option.map_eq_some_iff.mp hname.symm
    have hb := hbad p rfl
    cases hd : r.declares e.name with
    | false =>
      have hu : Line.unknown r p.1 = true := by simp [Line.unknown, hb, hp, hd]
      rw [flush_unknown hd]
      exact Verdict.of_unknown hu hn (by rw [hp]; rfl) rfl
    | true =>
      have hu : Line.unknown r p.1 = false := by simp [Line.unknown, hp, hd]
      rw [flush_declared hd]
      exact (Verdict.cons hb hu hn (hstep (record s e))).congr rfl rfl

theorem readFrom_verdict (number : ℕ) (pending : Option Entry) (begun : Option (Text × ℕ))
    (s : Store) (ls : List Text) (h : Begins pending begun) :
    Verdict r (begun.toList ++ openingsFrom number ls) (closed pending ls ++ ofLines ls) s
      (readFrom r none number pending s ls) := by
  induction ls generalizing number pending begun s with
  | nil =>
    have hdone (s : Store) : Verdict r [] [] s s.done :=
      ⟨fun _ _ => rfl, by simp [firstUnknown], by simp [firstBad]⟩
    have hend := verdict_andThen (s := s) h (by simp) hdone
    rw [Entry.closed_nil]
    refine hend.congr ?_ ?_
    · cases hf : (flush r s pending).failure <;> simp [readFrom, Change.andThen, hf, done]
    · cases hf : (flush r s pending).failure <;> simp [readFrom, Change.andThen, hf, done]
  | cons l ls ih =>
    rw [Line.openingsFrom_cons, readFrom]
    cases hb : Line.begins (Text.trim l) with
    | false =>
      rw [Entry.ofLines_of_not_begins hb]
      rcases Line.ofText_of_not_begins hb with hl | hl
      · rw [hl, Entry.closed_of_ignored hl]
        exact (ih (number + 1) pending begun s h).congr rfl rfl
      · rw [hl]
        cases pending with
        | none => exact (ih (number + 1) none begun s h).congr rfl rfl
        | some e =>
          rw [Entry.closed_of_continuation hl]
          exact ih (number + 1) (some (e.extend (Text.trim l))) begun s h
    | true =>
      have hl := Line.ofText_of_begins hb
      cases hbad : Line.bad (Text.trim l) with
      | true =>
        rw [hbad, if_pos rfl] at hl
        rw [hl]
        exact Verdict.of_bad h.2 hbad rfl rfl
      | false =>
        rw [hbad, if_neg Bool.false_ne_true] at hl
        rw [hl, Entry.closed_of_entry hl, Entry.ofLines_of_entry hl]
        refine verdict_andThen h (by simpa using hbad) fun s => ?_
        exact ih (number + 1) _ (some (Text.trim l, number)) s ⟨rfl, by simpa using hbad⟩

end Store

end PropertyFile
