import PropertyFile.Proofs.Sorting
import PropertyFile.Proofs.Tokens

/-! The line of an event is one line, however its context is spelled, and splits into the parts it
is made of. -/

namespace PropertyFile.Log

open Text (Unbroken codes isBlank isBreak joined pieces sortBy)

def space : Text := [.char ' ']

def opening (stage : Text) (event : Event) : List Text :=
  ["[phase]", "level=" ++ event.level.name, "stage=" ++ stage, "event=" ++ event.name]

def assignment (e : Text × Text) : Text := e.1 ++ .char '=' :: token e.2

structure Permitted (entries : List (Text × Text)) : Prop where
  distinct : (entries.map Prod.fst).Nodup
  named : ∀ e ∈ entries, e.1 ≠ []
  plain : ∀ e ∈ entries, ∀ c ∈ e.1, isBlank c = false ∧ c ≠ .char '='
  free : ∀ e ∈ entries, e.1 ∉ (["self", "stage", "level", "event"] : List Text)

variable {stage : Text} {event : Event} {entries entries' : List (Text × Text)} {e : Text × Text}
  {c : CodePoint} {t : Text}

lemma token_ne_nil (value : Text) : token value ≠ [] := by
  simp only [token]
  split
  · decide
  · rename_i hne
    simpa using hne

lemma plain_of_mem_token (h : c ∈ token t) : isBlank c = false ∧ c ≠ .char '=' := by
  have htoken := isTokenChar_of_mem_token h
  refine ⟨not_blank_of_isTokenChar htoken, ?_⟩
  rintro rfl
  revert htoken
  decide

lemma context_eq (entries : List (Text × Text)) :
    context entries = ((sortBy Prod.fst entries).map assignment).flatMap (space ++ ·) := by
  have hspace : (" " : Text) = space := rfl
  have hequals : ("=" : Text) = [.char '='] := rfl
  simp [context, assignment, hspace, hequals, List.flatMap_map]

lemma text_phase (stage : Text) (event : Event) (entries : List (Text × Text)) :
    (phase stage event entries).text =
      joined space (opening stage event ++ (sortBy Prod.fst entries).map assignment) := by
  have hlevel : ("[phase] level=" : Text) = "[phase]" ++ (space ++ "level=") := rfl
  have hstage : (" stage=" : Text) = space ++ "stage=" := rfl
  have hevent : (" event=" : Text) = space ++ "event=" := rfl
  rw [phase, context_eq, hlevel, hstage, hevent, opening, List.cons_append, Text.joined_cons]
  simp [List.append_assoc]

lemma opening_not_blank (hs : ∀ c ∈ stage, isBlank c = false) :
    ∀ p ∈ opening stage event, ∀ c ∈ p, isBlank c = false := by
  have hphase : ∀ c ∈ ("[phase]" : Text), isBlank c = false := by decide
  have hlevel : ∀ c ∈ "level=" ++ event.level.name, isBlank c = false := by
    cases event <;> decide
  have hstage : ∀ c ∈ "stage=" ++ stage, isBlank c = false :=
    List.forall_mem_append.mpr ⟨by decide, hs⟩
  have hevent : ∀ c ∈ "event=" ++ event.name, isBlank c = false := by
    cases event <;> decide
  simp only [opening, List.forall_mem_cons]
  exact ⟨hphase, hlevel, hstage, hevent, by simp⟩

lemma assignment_not_blank (h : ∀ c ∈ e.1, isBlank c = false) :
    ∀ c ∈ assignment e, isBlank c = false := by
  refine List.forall_mem_append.mpr ⟨h, List.forall_mem_cons.mpr ⟨by decide, ?_⟩⟩
  exact fun c hc => (plain_of_mem_token hc).1

lemma parts_not_blank (hs : ∀ c ∈ stage, isBlank c = false) (h : Permitted entries) :
    ∀ p ∈ opening stage event ++ (sortBy Prod.fst entries).map assignment,
      ∀ c ∈ p, isBlank c = false := by
  refine List.forall_mem_append.mpr ⟨opening_not_blank hs, fun p hp => ?_⟩
  obtain ⟨e, he, rfl⟩ := List.mem_map.mp hp
  have hmem : e ∈ entries := (Text.sortBy_perm Prod.fst entries).mem_iff.mp he
  exact assignment_not_blank fun c hc => (h.plain e hmem c hc).1

lemma pieces_phase (hs : ∀ c ∈ stage, isBlank c = false) (h : Permitted entries) :
    pieces space (phase stage event entries).text =
      opening stage event ++ (sortBy Prod.fst entries).map assignment := by
  have hne : space ≠ [] := List.cons_ne_nil _ _
  rw [text_phase, Text.pieces_eq_iff hne]
  apply Text.Cut.of_apart hne (List.cons_ne_nil _ _)
  intro p hp c hc hspace
  have hblank := parts_not_blank hs h p hp c hc
  obtain rfl := List.mem_singleton.mp hspace
  revert hblank
  decide

lemma unbroken_phase (hs : ∀ c ∈ stage, isBlank c = false) (h : Permitted entries) :
    Unbroken (phase stage event entries).text := by
  have hparts (p : Text)
      (hp : p ∈ opening stage event ++ (sortBy Prod.fst entries).map assignment) :
      Unbroken p := Text.unbroken_of_not_blank (parts_not_blank hs h p hp)
  rw [text_phase, opening, List.cons_append, Text.joined_cons]
  refine List.forall_mem_append.mpr ⟨hparts _ List.mem_cons_self, fun c hc => ?_⟩
  obtain ⟨p, hp, hc⟩ := List.mem_flatMap.mp hc
  refine List.forall_mem_append.mpr ⟨?_, hparts p (List.mem_cons_of_mem _ hp)⟩ c hc
  decide

lemma taken?_of_permitted (h : Permitted entries) : taken? event entries = none := by
  have hfree (names : List Text) (hnames : names ⊆ ["self", "stage", "level", "event"]) :
      (entries.find? fun e => names.contains e.1) = none := by
    rw [List.find?_eq_none]
    intro e he hname
    exact h.free e he (hnames (List.contains_iff_mem.mp hname))
  simp only [taken?, Event.parts, List.findSome?_cons, List.findSome?_nil]
  rw [hfree ["self", "stage"] (by simp), hfree ["level", "event"] (by simp)]
  rfl

lemma announced_of_permitted (h : Permitted entries) :
    announced stage event entries = .ok (phase stage event entries) := by
  rw [announced, taken?_of_permitted h]

lemma Permitted.perm (h : Permitted entries) (hp : entries'.Perm entries) :
    Permitted entries' where
  distinct := (hp.map Prod.fst).nodup_iff.mpr h.distinct
  named e he := h.named e (hp.subset he)
  plain e he := h.plain e (hp.subset he)
  free e he := h.free e (hp.subset he)

lemma sortBy_of_perm (h : Permitted entries) (hp : entries'.Perm entries) :
    sortBy Prod.fst entries' = sortBy Prod.fst entries := by
  apply Text.eq_sortBy
  · exact fun a ha b hb => List.inj_on_of_nodup_map h.distinct ha hb
  · exact (Text.sortBy_perm Prod.fst entries').trans hp
  · exact Text.pairwise_sortBy Prod.fst entries'

lemma pairwise_keys (h : Permitted entries) :
    (sortBy Prod.fst entries).Pairwise fun a b => codes a.1 < codes b.1 := by
  have hperm := (Text.sortBy_perm Prod.fst entries).map Prod.fst
  have hdistinct := List.pairwise_map.mp (hperm.nodup_iff.mpr h.distinct)
  refine ((Text.pairwise_sortBy Prod.fst entries).and hdistinct).imp ?_
  rintro a b ⟨hle, hne⟩
  exact lt_of_le_of_ne hle fun he => hne (Text.codes_injective he)

lemma permitted_error_type (kind : Text) : Permitted [("error_type", kind)] where
  distinct := List.nodup_singleton _
  named := by simp; decide
  plain := by simp; decide
  free := by simp; decide

lemma shown_singleton {s : Sink} {m : Message} (h : s.least ≤ m.level.severity) :
    s.shown [m] = m.text ++ "\n" := by
  simp [Sink.shown, h]

lemma lines_shown (hs : ∀ c ∈ stage, isBlank c = false) (h : Permitted entries) {s : Sink}
    (hl : s.least ≤ event.level.severity) :
    Text.lines isBreak (s.shown [phase stage event entries]) =
      [(phase stage event entries).text] := by
  rw [shown_singleton hl]
  exact Text.lines_append_newline (unbroken_phase hs h) []

lemma assignment_parts (h : ∀ c ∈ e.1, isBlank c = false ∧ c ≠ .char '=') :
    Text.before (.char '=') (assignment e) = e.1 ∧
      Text.after (.char '=') (assignment e) = token e.2 := by
  have hkey : .char '=' ∉ e.1 := fun hc => (h _ hc).2 rfl
  exact ⟨Line.before_append hkey (token e.2), Line.after_append hkey (token e.2)⟩

theorem announced_line (stage : Text) (event : Event) (entries : List (Text × Text))
    (hs : ∀ c ∈ stage, isBlank c = false) (h : Permitted entries) :
    (∃ (m : Message) (es : List (Text × Text)), announced stage event entries = .ok m ∧
      (∀ s : Sink, s.least ≤ event.level.severity → s.shown [m] = m.text ++ "\n" ∧
        Text.lines isBreak (s.shown [m]) = [m.text]) ∧
      es.Perm entries ∧ (es.Pairwise fun a b => codes a.1 < codes b.1) ∧
      pieces space m.text = opening stage event ++ es.map assignment ∧
      (∀ e ∈ es, token e.2 ≠ [] ∧ (∀ c ∈ token e.2, isBlank c = false ∧ c ≠ .char '=') ∧
        Text.before (.char '=') (assignment e) = e.1 ∧
        Text.after (.char '=') (assignment e) = token e.2) ∧
      ∀ entries', entries'.Perm entries → announced stage event entries' = .ok m) ∧
    ∀ kind, Permitted [("error_type", kind)] ∧
      announced stage .failure [("error_type", kind)] = .ok (failure stage kind) := by
  have hsorted := Text.sortBy_perm Prod.fst entries
  refine ⟨⟨phase stage event entries, sortBy Prod.fst entries, announced_of_permitted h,
    fun s hl => ⟨shown_singleton hl, lines_shown hs h hl⟩, hsorted, pairwise_keys h,
    pieces_phase hs h, fun e he => ?_, fun entries' hp => ?_⟩, fun kind => ?_⟩
  · have hkey := h.plain e (hsorted.mem_iff.mp he)
    exact ⟨token_ne_nil e.2, fun c hc => plain_of_mem_token hc, assignment_parts hkey⟩
  · rw [announced_of_permitted (h.perm hp), phase, phase, context_eq, context_eq,
      sortBy_of_perm h hp]
  · have hkind := permitted_error_type kind
    exact ⟨hkind, announced_of_permitted hkind⟩

theorem announced_line_quoted :
    let stage := Text.ofChars ['r', 'e', 'a', 'd']
    let b : Text × Text := (['b'], Text.ofChars [' ', 'x', '=', '"', '\n', 'y', ' '])
    let z : Text × Text := (['Z'], Text.ofChars ['\u2003'])
    ((∀ c ∈ stage, isBlank c = false) ∧ Permitted [b, z]) ∧
    ∃ (m : Message) (es : List (Text × Text)),
      announced stage .start [b, z] = .ok m ∧ es.Perm [b, z] ∧
      pieces space m.text = opening stage .start ++ es.map assignment ∧
      announced stage .start [z, b] = .ok m ∧
      assignment b = Text.ofChars ['b', '=', 'x', '_', '_', '_', 'y'] ∧
      assignment z = Text.ofChars ['Z', '=', 'n', 'o', 'n', 'e'] := by
  intro stage b z
  have hstage : ∀ c ∈ stage, isBlank c = false := by decide
  have hpermitted : Permitted [b, z] := ⟨by decide, by decide, by decide, by decide⟩
  obtain ⟨⟨m, es, hm, -, hp, -, hpieces, -, horder⟩, -⟩ :=
    announced_line stage .start [b, z] hstage hpermitted
  exact ⟨⟨hstage, hpermitted⟩, m, es, hm, hp, hpieces, horder [z, b] (.swap b z []),
    by decide +kernel, by decide +kernel⟩

end PropertyFile.Log
