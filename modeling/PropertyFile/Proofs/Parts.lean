import PropertyFile.Listing
import PropertyFile.Proofs.Refusal
import PropertyFile.Proofs.Splitting

/-! The texts a key or a value can be made of, and how a row printed of them is read. -/

namespace PropertyFile.Text

def Unbroken (t : Text) : Prop := ∀ c ∈ t, isBreak c = false

variable {t x : Text} {c : CodePoint}

lemma newline_not_mem (h : Unbroken t) : .char '\n' ∉ t := fun hc => by
  have := h _ hc
  exact absurd this (by decide)

lemma lines_cons (hc : isBreak c = false) (t : Text) :
    lines isBreak (c :: t) = pushFirst c (lines isBreak t) := by
  rw [lines]
  · simp [hc]
  · rintro u rfl
    exact absurd hc (by decide)

lemma lines_newline (t : Text) : lines isBreak (.char '\n' :: t) = [] :: lines isBreak t := by
  rw [lines]
  · simp [isBreak, within, CodePoint.toNat]
  · rintro _ h
    exact absurd h (by decide)

lemma lines_append_newline (hx : Unbroken x) (t : Text) :
    lines isBreak (x ++ .char '\n' :: t) = x :: lines isBreak t := by
  induction x with
  | nil => exact lines_newline t
  | cons c x ih =>
    obtain ⟨hc, hx⟩ := List.forall_mem_cons.mp hx
    rw [List.cons_append, lines_cons hc, ih hx]
    rfl

lemma unbroken_of_mem_lines (t : Text) : ∀ x ∈ lines isBreak t, Unbroken x := by
  fun_induction lines isBreak t with
  | case1 => simp
  | case2 t ih => exact List.forall_mem_cons.mpr ⟨by simp [Unbroken], ih⟩
  | case3 c t _ hc ih => exact List.forall_mem_cons.mpr ⟨by simp [Unbroken], ih⟩
  | case4 c t _ hc ih =>
    have hb : isBreak c = false := by simpa using hc
    cases hl : lines isBreak t with
    | nil => simpa [pushFirst, Unbroken] using hb
    | cons l ls =>
      rw [hl, List.forall_mem_cons] at ih
      exact List.forall_mem_cons.mpr ⟨List.forall_mem_cons.mpr ⟨hb, ih.1⟩, ih.2⟩

def newline : Text := [.char '\n']

lemma pieces_joined (ps : List Text) (hx : .char '\n' ∉ x) (hps : ∀ q ∈ ps, .char '\n' ∉ q) :
    pieces newline (x ++ Line.joined ps) = x :: ps := by
  have hne : newline ≠ [] := List.cons_ne_nil _ _
  have hfree : ∀ p ∈ x :: ps, .char '\n' ∉ p := List.forall_mem_cons.mpr ⟨hx, hps⟩
  have hapart : ∀ p ∈ x :: ps, ∀ c ∈ p, c ∉ newline := by
    intro p hp c hc hmem
    obtain rfl := List.mem_singleton.mp hmem
    exact hfree p hp hc
  have hcut := Cut.of_apart hne (List.cons_ne_nil x ps) hapart
  rw [joined_cons] at hcut
  exact (pieces_eq_iff hne).mpr hcut

lemma joined_pieces (t : Text) : ∃ p ps, pieces newline t = p :: ps ∧ t = p ++ Line.joined ps := by
  have hne : newline ≠ [] := List.cons_ne_nil _ _
  have hcut := cut_pieces hne t
  generalize pieces newline t = ps at hcut ⊢
  induction hcut with
  | @last p _ => exact ⟨p, [], rfl, by simp [Line.joined]⟩
  | @next p t ps _ _ ih =>
    obtain ⟨q, qs, rfl, rfl⟩ := ih
    exact ⟨p, q :: qs, rfl, rfl⟩

end PropertyFile.Text

namespace PropertyFile.Line

open Text (Unbroken)

structure Part (t : Text) : Prop where
  trimmed : Text.trim t = t
  unbroken : Unbroken t
  plain : .char '=' ∉ t

structure Front (t : Text) : Prop extends Part t where
  ne_nil : t ≠ []
  visible : t.head? ≠ some (.char '#')

def IsValue (v : Text) : Prop :=
  ∃ p ps, Text.pieces Text.newline v = p :: ps ∧ Part p ∧ ∀ q ∈ ps, Front q

variable {l p t v name : Text} {ps : List Text}

lemma isValue_iff : IsValue v ↔ ∃ p ps, v = p ++ joined ps ∧ Part p ∧ ∀ q ∈ ps, Front q := by
  constructor
  · rintro ⟨p, ps, hp, hpart, hfront⟩
    obtain ⟨q, qs, hq, rfl⟩ := Text.joined_pieces v
    obtain ⟨rfl, rfl⟩ := List.cons.inj (hp.symm.trans hq)
    exact ⟨p, ps, rfl, hpart, hfront⟩
  · rintro ⟨p, ps, rfl, hpart, hfront⟩
    have hps := Text.pieces_joined ps (Text.newline_not_mem hpart.unbroken) fun q hq =>
      Text.newline_not_mem (hfront q hq).unbroken
    exact ⟨p, ps, hps, hpart, hfront⟩

lemma isValue_of_part (h : Part t) : IsValue t :=
  isValue_iff.mpr ⟨t, [], by simp [joined], h, by simp⟩

lemma IsValue.extend (hv : IsValue v) (ht : Front t) : IsValue (v ++ .char '\n' :: t) := by
  obtain ⟨p, ps, rfl, hp, hps⟩ := isValue_iff.mp hv
  refine isValue_iff.mpr ⟨p, ps ++ [t], by simp [joined], hp, fun q hq => ?_⟩
  rcases List.mem_append.mp hq with hq | hq
  · exact hps q hq
  · rwa [List.mem_singleton.mp hq]

section Reading

lemma front_of_continuation (hl : Unbroken l) (h : ofText l = .continuation t) : Front t := by
  obtain ⟨rfl, hc⟩ := ofText_continuation h
  have hp : passedOver (Text.trim l) = false := by
    by_contra hp
    rw [ofText_eq_ignored_iff.mpr (by simpa using hp)] at h
    cases h
  simp only [passedOver, Bool.or_eq_false_iff, List.isEmpty_eq_false_iff, beq_eq_false_iff_ne]
    at hp
  refine ⟨⟨Text.trim_trim l, fun c hx => hl c (Text.mem_of_mem_trim hx), ?_⟩, hp.1, hp.2⟩
  simpa [continues] using hc

lemma front_key (ht : Text.Tight t) (hu : Unbroken t) (hb : begins t = true)
    (hk : Text.blank (Text.before (.char '=') t) = false) : Front (key t) := by
  have hmem {c : CodePoint} (hc : c ∈ key t) : c ∈ t.takeWhile (· != .char '=') :=
    Text.mem_of_mem_trim hc
  refine ⟨⟨Text.trim_trim _, fun c hc => ?_, fun hc => ?_⟩, fun h => ?_, ?_⟩
  · exact hu c ((List.takeWhile_prefix _).subset (hmem hc))
  · simpa using List.all_eq_true.mp List.all_takeWhile _ (hmem hc)
  · rw [key, Text.trim_eq_nil_iff, hk] at h
    cases h
  · -- the text left of `=` begins as the line does
    have hhead : (Text.before (.char '=') t).head? = t.head? := by
      cases t with
      | nil => rfl
      | cons c t =>
        have hc : c ≠ .char '=' := by
          rintro rfl
          simp [Text.before, Text.blank] at hk
        simp [Text.before, hc]
    rw [key, Text.head?_trim (by rw [hhead]; exact ht.1), hhead]
    simp only [begins, Bool.and_eq_true, bne_iff_ne] at hb
    exact hb.1

lemma part_after (hu : Unbroken t) (hc : t.count (.char '=') ≤ 1) :
    Part (Text.trim (Text.after (.char '=') t)) := by
  have hmem {c : CodePoint} (hc : c ∈ Text.trim (Text.after (.char '=') t)) :
      c ∈ Text.after (.char '=') t := Text.mem_of_mem_trim hc
  refine ⟨Text.trim_trim _, fun c hc => ?_, fun hc' => ?_⟩
  · exact hu c ((List.dropWhile_suffix _).subset ((List.drop_suffix 1 _).subset (hmem hc)))
  · have hcontains := contains_after (.char '=') t
    rw [decide_eq_false (by omega)] at hcontains
    have hmem' := List.contains_iff_mem.mpr (hmem hc')
    rw [hcontains] at hmem'
    cases hmem'

lemma parts_of_entry {e : Entry} (hl : Unbroken l) (h : ofText l = .entry e) :
    Front e.name ∧ Part e.value := by
  have hu : Unbroken (Text.trim l) := fun c hc => hl c (Text.mem_of_mem_trim hc)
  cases hb : begins (Text.trim l) with
  | false => rcases ofText_of_not_begins hb with hl' | hl' <;> simp [hl'] at h
  | true =>
    rw [ofText_of_begins hb] at h
    split at h
    · cases h
    · rename_i hbad
      obtain rfl := Line.entry.inj h
      simp only [bad, Bool.or_eq_true, decide_eq_true_eq, not_or] at hbad
      exact ⟨front_key (Text.tight_trim l) hu hb (by simpa using hbad.2),
        part_after hu (by omega)⟩

end Reading

section Writing

variable {x q : Text}

lemma before_append (hx : .char '=' ∉ x) (q : Text) :
    Text.before (.char '=') (x ++ .char '=' :: q) = x := by
  rw [Text.before, List.takeWhile_append_of_pos]
  · simp
  · rintro c hc
    have hne : c ≠ .char '=' := fun he => hx (he ▸ hc)
    simpa using hne

lemma after_append (hx : .char '=' ∉ x) (q : Text) :
    Text.after (.char '=') (x ++ .char '=' :: q) = q := by
  rw [Text.after, List.dropWhile_append_of_pos]
  · simp
  · rintro c hc
    have hne : c ≠ .char '=' := fun he => hx (he ▸ hc)
    simpa using hne

lemma count_append (hx : .char '=' ∉ x) (hq : .char '=' ∉ q) :
    List.count (.char '=') (x ++ .char '=' :: q) = 1 := by
  rw [List.count_append, List.count_eq_zero.mpr hx, List.count_cons_self,
    List.count_eq_zero.mpr hq]

lemma trim_assignment (hn : Front name) (hp : Part p) :
    ∃ q, Text.trim (name ++ " = " ++ p) = name ++ [.char ' '] ++ .char '=' :: q ∧
      Text.trim q = p ∧ .char '=' ∉ q := by
  have hname := Text.tight_of_trim hn.trimmed
  have hsep : (" = " : Text) = ([.char ' ', .char '=', .char ' '] : Text) := by decide
  have hblank : Text.blank [.char ' '] = true := by decide
  rw [hsep]
  by_cases hp' : p = []
  · have ht : Text.Tight (name ++ [.char ' ', .char '=']) :=
      Text.tight_append hname.1 (by decide) hn.ne_nil (by simp)
    have htrim := (Text.trim_append_blank (name ++ [.char ' ', .char '=']) hblank).trans
      (Text.trim_of_tight ht)
    refine ⟨[], ?_, by rw [hp']; rfl, by simp⟩
    simpa [hp'] using htrim
  · have hpart := Text.tight_of_trim hp.trimmed
    have ht : Text.Tight (name ++ [.char ' ', .char '=', .char ' '] ++ p) :=
      Text.tight_append (by rw [List.head?_append_of_ne_nil _ hn.ne_nil]; exact hname.1) hpart.2
        (by simp) hp'
    refine ⟨.char ' ' :: p, ?_, ?_, ?_⟩
    · rw [Text.trim_of_tight ht]
      simp
    · exact (Text.trim_blank_append hblank p).trans hp.trimmed
    · simpa using hp.plain

lemma ofText_assignment (hn : Front name) (hp : Part p) :
    ofText (name ++ " = " ++ p) = .entry ⟨name, p⟩ := by
  obtain ⟨q, ht, hq, hplain⟩ := trim_assignment hn hp
  have hside : .char '=' ∉ name ++ [.char ' '] := by simpa using hn.plain
  have hkey : Text.trim (name ++ [.char ' ']) = name := by
    rw [Text.trim_append_blank _ (by decide), hn.trimmed]
  have hblank : Text.blank (name ++ [.char ' ']) = false := by
    rw [← Bool.not_eq_true, ← Text.trim_eq_nil_iff, hkey]
    exact hn.ne_nil
  have hb : begins (Text.trim (name ++ " = " ++ p)) = true := by
    rw [ht, begins, List.append_assoc, List.head?_append_of_ne_nil _ hn.ne_nil]
    simpa using hn.visible
  have hbad : bad (Text.trim (name ++ " = " ++ p)) = false := by
    rw [ht, bad, count_append hside hplain, before_append hside, hblank]
    rfl
  rw [ofText_of_begins hb, hbad, if_neg Bool.false_ne_true, key, ht, before_append hside,
    after_append hside, hkey, hq]

lemma ofText_indented (hq : Front q) : ofText (Listing.indent ++ q) = .continuation q := by
  have ht : Text.trim (Listing.indent ++ q) = q := by
    rw [Text.trim_blank_append (by decide), hq.trimmed]
  have hb : begins (Text.trim (Listing.indent ++ q)) = false := by
    rw [ht, begins]
    simpa using fun _ => hq.plain
  rcases ofText_of_not_begins hb with h | h
  · rw [ofText_eq_ignored_iff, ht] at h
    simp [passedOver, hq.ne_nil, hq.visible] at h
  · rw [h, ht]

end Writing

end PropertyFile.Line

namespace PropertyFile.Listing

open Line (Part Front joined)
open Text (Unbroken isBreak)

variable {x p name t : Text} {ps : List Text}

lemma indented_append (s t : Text) : indented (s ++ t) = indented s ++ indented t :=
  List.flatMap_append

lemma indented_of_not_mem (h : .char '\n' ∉ x) : indented x = x := by
  induction x with
  | nil => rfl
  | cons c x ih =>
    rw [List.mem_cons, not_or] at h
    have hc : (c == .char '\n') = false := by simpa using Ne.symm h.1
    rw [indented, List.flatMap_cons, hc, if_neg Bool.false_ne_true]
    exact congrArg (c :: ·) (ih h.2)

lemma indented_joined (hps : ∀ q ∈ ps, .char '\n' ∉ q) :
    indented (joined ps) = joined (ps.map (indent ++ ·)) := by
  induction ps with
  | nil => rfl
  | cons q ps ih =>
    obtain ⟨hq, hps⟩ := List.forall_mem_cons.mp hps
    have hsplit : joined (q :: ps) = [.char '\n'] ++ (q ++ joined ps) := by simp [joined]
    rw [hsplit, indented_append, indented_append, indented_of_not_mem hq, ih hps]
    simp [joined, indented]

lemma lines_joined (hx : Unbroken x) (hps : ∀ q ∈ ps, Unbroken q) (t : Text) :
    Text.lines isBreak (x ++ joined ps ++ .char '\n' :: t) = x :: ps ++ Text.lines isBreak t := by
  induction ps generalizing x with
  | nil => simpa [joined] using Text.lines_append_newline hx t
  | cons q ps ih =>
    obtain ⟨hq, hps⟩ := List.forall_mem_cons.mp hps
    have hsplit : x ++ joined (q :: ps) ++ .char '\n' :: t =
        x ++ .char '\n' :: (q ++ joined ps ++ .char '\n' :: t) := by simp [joined]
    rw [hsplit, Text.lines_append_newline hx, ih hq hps]
    rfl

lemma lines_row (hn : Front name) (hp : Part p) (hps : ∀ q ∈ ps, Front q) (t : Text) :
    Text.lines isBreak (row name (p ++ joined ps) ++ t) =
      (name ++ " = " ++ p) :: ps.map (indent ++ ·) ++ Text.lines isBreak t := by
  have hsep : ∀ c ∈ (" = " : Text), isBreak c = false := by decide
  have hindent : ∀ c ∈ indent, isBreak c = false := by decide
  have hhead : Unbroken (name ++ " = " ++ p) :=
    List.forall_mem_append.mpr ⟨List.forall_mem_append.mpr ⟨hn.unbroken, hsep⟩, hp.unbroken⟩
  have hlines : ∀ q ∈ ps.map (indent ++ ·), Unbroken q := by
    intro l hl
    obtain ⟨q, hq, rfl⟩ := List.mem_map.mp hl
    exact List.forall_mem_append.mpr ⟨hindent, (hps q hq).unbroken⟩
  have hrow : row name (p ++ joined ps) ++ t =
      name ++ " = " ++ p ++ joined (ps.map (indent ++ ·)) ++ .char '\n' :: t := by
    rw [row, indented_append, indented_of_not_mem (Text.newline_not_mem hp.unbroken),
      indented_joined fun q hq => Text.newline_not_mem (hps q hq).unbroken]
    simp [Text.ofString, Text.ofChars]
  rw [hrow, lines_joined hhead hlines]

end PropertyFile.Listing
