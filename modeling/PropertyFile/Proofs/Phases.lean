import PropertyFile.Proofs.Stages
import PropertyFile.Proofs.Tokens

/-! What a load tells at level INFO: the stages that are passed, one after the other, and then the
one that fails. -/

namespace PropertyFile

namespace Sink

variable {s : Sink} {α : Type}

def lines (s : Sink) (messages : List Message) : List Text :=
  (messages.filter fun m => decide (s.least ≤ m.level.severity)).map Message.text

lemma shown_eq_unlines (s : Sink) (messages : List Message) :
    s.shown messages = Text.unlines (s.lines messages) := by
  simp [shown, lines, Text.unlines, List.flatMap_map]

lemma shown_append (s : Sink) (before after : List Message) :
    s.shown (before ++ after) = s.shown before ++ s.shown after := by
  simp [shown]

lemma lines_append (s : Sink) (before after : List Message) :
    s.lines (before ++ after) = s.lines before ++ s.lines after := by
  simp [lines]

lemma lines_notes (notes : List Note) : (ofLevel .info).lines (notes.map Note.message) = [] := by
  have hlow : ∀ m ∈ notes.map Note.message,
      ¬ decide ((ofLevel .info).least ≤ m.level.severity) = true := by
    rintro m hm
    obtain ⟨n, -, rfl⟩ := List.mem_map.mp hm
    cases n <;> simp [Note.message, ofLevel, Level.severity]
  rw [lines, List.filter_eq_nil_iff.mpr hlow, List.map_nil]

end Sink

namespace Log

/-- A handler that writes the messages from a level up, each as a line, and no others. -/
structure Plain (least : Level) (handler : Message → Text) : Prop where
  shows : ∀ m, least.severity ≤ m.level.severity → handler m = m.text ++ "\n"
  hides : ∀ m, m.level.severity < least.severity → handler m = []

lemma plain_sink (l : Level) : Plain l fun m => (Sink.ofLevel l).shown [m] where
  shows m h := by simp [Sink.shown, Sink.ofLevel, h]
  hides m h := by simp [Sink.shown, Sink.ofLevel, Nat.not_le.mpr h]

lemma Plain.flatMap_eq {l : Level} {handler : Message → Text} (h : Plain l handler)
    (ms : List Message) :
    ms.flatMap handler = Text.unlines ((Sink.ofLevel l).lines ms) := by
  rw [← Sink.shown_eq_unlines]
  induction ms with
  | nil => rfl
  | cons m ms ih =>
    have hone : handler m = (Sink.ofLevel l).shown [m] := by
      by_cases hm : l.severity ≤ m.level.severity
      · rw [h.shows m hm]
        exact ((plain_sink l).shows m hm).symm
      · rw [h.hides m (Nat.not_le.mp hm)]
        exact ((plain_sink l).hides m (Nat.not_le.mp hm)).symm
    rw [List.flatMap_cons, ih, hone, ← Sink.shown_append, List.singleton_append]

end Log

namespace Load

def stages : List Stage := [.schema, .read, .validate, .substitute]

def keys (file : FileState) : ℕ :=
  ((file.entries?.getD []).map Entry.name).eraseDups.length

def startLine (path : Text) (file : FileState) : Stage → Text
  | .read => "[phase] level=INFO stage=read event=start path=" ++ Log.token (Path.normal path)
  | .substitute => "[phase] level=INFO stage=substitute event=start keys=" ++ Text.ofNat (keys file)
  | stage => "[phase] level=INFO stage=" ++ stage.name ++ " event=start"

def completeLine (stage : Stage) : Text :=
  "[phase] level=INFO stage=" ++ stage.name ++ " event=complete"

def failureLine (e : ConfigError) : Text :=
  "[phase] level=ERROR stage=" ++ e.stage.name ++ " event=failure error_type=" ++ e.kind

def passedLines (path : Text) (file : FileState) (stage : Stage) : List Text :=
  [startLine path file stage, completeLine stage]

/-- The lines of a load through the stages: those of the stages passed, and then of the one that
fails. -/
inductive Told (path : Text) (file : FileState) (stages : List Stage) :
    Except Error Store → List Text → Prop
  | loaded (s : Store) : Told path file stages (.ok s) (stages.flatMap (passedLines path file))
  | failed (passed : List Stage) (c : ConfigError) : passed ++ [c.stage] <+: stages →
    Told path file stages (.error (.config c))
      (passed.flatMap (passedLines path file) ++ [startLine path file c.stage, failureLine c])
  | broken (passed : List Stage) (stage : Stage) (e : Error) : passed ++ [stage] <+: stages →
    (∀ c, e ≠ .config c) → stage = .schema ∨ stage = .read ∧ ¬ Path.Openable path →
    Told path file stages (.error e)
      (passed.flatMap (passedLines path file) ++ [startLine path file stage])

variable {path : Text} {file : FileState} {stage : Stage} {rest : List Stage}
  {outcome : Except Error Store} {ls : List Text} {context : List (Text × Text)}

lemma Told.pass (h : Told path file rest outcome ls) :
    Told path file (stage :: rest) outcome (passedLines path file stage ++ ls) := by
  cases h with
  | loaded s => exact .loaded s
  | failed passed c hp => exact .failed (stage :: passed) c (List.cons_prefix_cons.mpr ⟨rfl, hp⟩)
  | broken passed s e hp he hs =>
    exact .broken (stage :: passed) s e (List.cons_prefix_cons.mpr ⟨rfl, hp⟩) he hs

def Ending (path : Text) (stage : Stage) (e : Error) : Prop :=
  e.Belongs stage ∧
    ((∃ c, e = .config c) ∨ stage = .schema ∨ stage = .read ∧ ¬ Path.Openable path)

lemma lines_staged {α : Type} (notes : List Note) (result : Except Error α) :
    (Sink.ofLevel .info).lines (staged stage context notes result).log =
      (Log.start stage.name context).text ::
        (Sink.ofLevel .info).lines (ending stage result) := by
  have hlog : (staged stage context notes result).log =
      [Log.start stage.name context] ++ (notes.map Note.message ++ ending stage result) := rfl
  rw [hlog, Sink.lines_append, Sink.lines_append, Sink.lines_notes]
  rfl

lemma text_complete (stage : Stage) :
    (Log.complete stage.name []).text = completeLine stage := by
  cases stage <;> rfl

lemma text_failure (c : ConfigError) :
    (Log.failure c.stage.name c.kind).text = failureLine c := by
  rw [Log.failure, Log.phase, Log.context_singleton, Log.token_kind, failureLine]
  generalize c.stage = stage
  cases stage <;> rfl

lemma lines_complete {α : Type} (stage : Stage) (a : α) :
    (Sink.ofLevel .info).lines (ending stage (.ok a : Except Error α)) = [completeLine stage] := by
  rw [← text_complete]
  rfl

lemma lines_failure {α : Type} (c : ConfigError) :
    (Sink.ofLevel .info).lines (ending c.stage (.error (.config c) : Except Error α)) =
      [failureLine c] := by
  rw [← text_failure]
  rfl

lemma ending_of_broken {α : Type} {e : Error} (h : ∀ c, e ≠ .config c) :
    ending stage (.error e : Except Error α) = [] := by
  cases e with
  | config c => exact absurd rfl (h c)
  | _ => rfl

lemma told_of_error {α : Type} {e : Error} (h : Ending path stage e) :
    Told path file (stage :: rest) (.error e) (startLine path file stage ::
      (Sink.ofLevel .info).lines (ending stage (.error e : Except Error α))) := by
  have hp (s : Stage) : [] ++ [s] <+: s :: rest := List.cons_prefix_cons.mpr ⟨rfl, List.nil_prefix⟩
  obtain ⟨hb, hs⟩ := h
  by_cases hc : ∃ c, e = .config c
  · obtain ⟨c, rfl⟩ := hc
    obtain rfl := hb c rfl
    rw [lines_failure]
    exact .failed [] c (hp _)
  · have hbroken : ∀ c, e ≠ .config c := fun c he => hc ⟨c, he⟩
    rw [ending_of_broken hbroken]
    exact .broken [] stage e (hp _) hbroken (hs.resolve_left hc)

lemma told_stage {α : Type} {notes : List Note} {result : Except Error α} (f : α → Logged Store)
    (hstart : (Log.start stage.name context).text = startLine path file stage)
    (herror : ∀ e, result = .error e → Ending path stage e)
    (hrest : ∀ a, result = .ok a →
      Told path file rest (f a).outcome ((Sink.ofLevel .info).lines (f a).log)) :
    Told path file (stage :: rest) ((staged stage context notes result).bind f).outcome
      ((Sink.ofLevel .info).lines ((staged stage context notes result).bind f).log) := by
  cases hr : result with
  | error e =>
    rw [bind_of_error rfl, lines_staged, hstart]
    exact told_of_error (herror e hr)
  | ok a =>
    rw [bind_of_ok rfl, Sink.lines_append, lines_staged, hstart, lines_complete]
    exact (hrest a hr).pass

lemma bind_done {α : Type} (x : Logged α) : x.bind (fun a => ⟨[], .ok a⟩) = x := by
  obtain ⟨log, outcome⟩ := x
  cases outcome with
  | error e => rfl
  | ok a => simp [bind_of_ok]

lemma of_outcome_ok {c : Change} {s : Store} (h : c.outcome = .ok s) :
    c.failure = none ∧ c.store = s := by
  unfold Change.outcome at h
  split at h
  · cases h
  · exact ⟨‹_›, Except.ok.inj h⟩

lemma of_outcome_error {c : Change} {e : Error} (h : c.outcome = .error e) :
    c.failure = some e := by
  unfold Change.outcome at h
  split at h
  · rwa [← Except.error.inj h]
  · cases h

variable {r : Registry} {s : Store} {e : Error}

lemma size_of_read (h : (read r path file).failure = none) :
    (read r path file).store.size = keys file := by
  obtain ⟨es, hes, hs, -⟩ := read_ok h
  have hnames := congrArg List.length (Store.names_foldl_record r es)
  rw [← hs, Index.names, List.length_map] at hnames
  rw [Store.size, hnames, keys, hes, Option.getD_some]

lemma ending_read (h : (read r path file).failure = some e) : Ending path .read e := by
  rcases read_failure h with hf | hpath
  · obtain ⟨c, he, -⟩ := id hf
    exact ⟨hf.belongs, .inl ⟨c, he⟩⟩
  · have hopen : ¬ Path.Openable path := by
      intro ho
      rw [Path.fault?_eq_none_iff.mpr ho.normal] at hpath
      cases hpath
    exact ⟨fun c hc => absurd hc (Path.fault?_foreign hpath c), .inr (.inr ⟨rfl, hopen⟩)⟩

lemma ending_validate (h : s.validate r = .error e) : Ending path .validate e := by
  obtain ⟨d, -, rfl⟩ := Store.validate_error h
  exact ⟨Error.FaultOf.belongs ⟨_, rfl, rfl⟩, .inl ⟨_, rfl⟩⟩

lemma ending_substitute (h : s.resolveAll.failure = some e) : Ending path .substitute e := by
  obtain ⟨chain, -, rfl⟩ := Option.map_eq_some_iff.mp h
  exact ⟨Error.FaultOf.belongs ⟨_, rfl, rfl⟩, .inl ⟨_, rfl⟩⟩

theorem told_run (source : SchemaSource) (path : Text) (file : FileState) :
    Told path file stages (run source path file).outcome
      ((Sink.ofLevel .info).lines (run source path file).log) := by
  refine told_stage _ rfl (fun e he => ?_) fun r hr => ?_
  · exact ⟨Registry.ofSource_error he, .inr (.inl rfl)⟩
  refine told_stage _ ?_ (fun e he => ending_read (of_outcome_error he)) fun s hs => ?_
  · rw [Log.start, Log.phase, Log.context_singleton]
    rfl
  refine told_stage _ rfl (fun e he => ending_validate he) fun _ _ => ?_
  rw [← bind_done (staged _ _ _ _)]
  refine told_stage _ ?_ (fun e he => ending_substitute (of_outcome_error he)) fun d _ => .loaded d
  · obtain ⟨hf, rfl⟩ := of_outcome_ok hs
    rw [Log.start, Log.phase, Log.context_singleton, Log.token_ofNat, size_of_read hf]
    rfl

lemma unbroken_startLine (path : Text) (file : FileState) (stage : Stage) :
    Text.Unbroken (startLine path file stage) := by
  cases stage with
  | read =>
    exact List.forall_mem_append.mpr ⟨by decide +kernel,
      Log.unbroken_of_tokens fun _ => Log.isTokenChar_of_mem_token⟩
  | substitute =>
    exact List.forall_mem_append.mpr ⟨by decide +kernel,
      Log.unbroken_of_tokens fun _ => Log.isTokenChar_of_mem_ofNat⟩
  | _ => simp only [startLine, Text.Unbroken]; decide +kernel

lemma unbroken_completeLine (stage : Stage) : Text.Unbroken (completeLine stage) := by
  cases stage <;> (simp only [completeLine, Text.Unbroken]; decide +kernel)

lemma unbroken_failureLine (c : ConfigError) : Text.Unbroken (failureLine c) := by
  have hkind : Text.Unbroken c.kind := by
    rw [← Log.token_kind]
    exact Log.unbroken_of_tokens fun _ => Log.isTokenChar_of_mem_token
  have hname : Text.Unbroken c.stage.name := by
    generalize c.stage = stage
    cases stage <;> (simp only [Text.Unbroken]; decide)
  simp only [failureLine, Text.Unbroken, List.forall_mem_append]
  exact ⟨⟨⟨by decide, hname⟩, by decide⟩, hkind⟩

lemma unbroken_passed (passed : List Stage) :
    ∀ l ∈ passed.flatMap (passedLines path file), Text.Unbroken l := by
  intro l hl
  obtain ⟨stage, -, hl⟩ := List.mem_flatMap.mp hl
  simp only [passedLines, List.mem_cons, List.not_mem_nil, or_false] at hl
  rcases hl with rfl | rfl
  · exact unbroken_startLine path file stage
  · exact unbroken_completeLine stage

lemma Told.unbroken {stages : List Stage} (h : Told path file stages outcome ls) :
    ∀ l ∈ ls, Text.Unbroken l := by
  cases h with
  | loaded s => exact unbroken_passed stages
  | failed passed c _ =>
    refine List.forall_mem_append.mpr ⟨unbroken_passed passed, ?_⟩
    simp [unbroken_startLine, unbroken_failureLine]
  | broken passed stage e _ _ _ =>
    refine List.forall_mem_append.mpr ⟨unbroken_passed passed, ?_⟩
    simp [unbroken_startLine]

lemma completeLine_injective : Function.Injective completeLine := by
  intro s s' h
  cases s <;> cases s' <;> first | rfl | exact absurd h (by decide)

def opening (stage : Stage) (letters : Text) : Text :=
  "[phase] level=INFO stage=" ++ stage.name ++ " event=" ++ letters

lemma completeLine_ne_startLine (s s' : Stage) : completeLine s ≠ startLine path file s' := by
  intro h
  have hcomplete : opening s "c" <+: completeLine s := by cases s <;> exact ⟨_, rfl⟩
  have hstart : opening s' "s" <+: startLine path file s' := by cases s' <;> exact ⟨_, rfl⟩
  have hapart : ¬ opening s "c" <+: opening s' "s" ∧ ¬ opening s' "s" <+: opening s "c" := by
    cases s <;> cases s' <;> decide
  rw [h] at hcomplete
  exact (List.prefix_or_prefix_of_prefix hcomplete hstart).elim hapart.1 hapart.2

lemma completeLine_ne_failureLine (c : ConfigError) (s : Stage) :
    completeLine s ≠ failureLine c := by
  intro h
  have hinfo : (completeLine s).take 15 = "[phase] level=I" := rfl
  have herror : (failureLine c).take 15 = "[phase] level=E" := rfl
  rw [h, herror] at hinfo
  exact absurd hinfo (by decide)

lemma passed_of_completeLine {passed : List Stage}
    (h : completeLine stage ∈ passed.flatMap (passedLines path file)) : stage ∈ passed := by
  obtain ⟨s, hs, h⟩ := List.mem_flatMap.mp h
  simp only [passedLines, List.mem_cons, List.not_mem_nil, or_false] at h
  rcases h with h | h
  · exact absurd h (completeLine_ne_startLine stage s)
  · rwa [completeLine_injective h]

lemma not_passed {stages passed : List Stage} (hn : stages.Nodup)
    (h : passed ++ [stage] <+: stages) : stage ∉ passed := by
  have hnodup := hn.sublist h.sublist
  exact fun hs => (List.nodup_append.mp hnodup).2.2 _ hs _ (by simp) rfl

lemma Told.complete_iff {stages : List Stage} (h : Told path file stages outcome ls)
    (hn : stages.Nodup) :
    (∀ stage ∈ stages, completeLine stage ∈ ls) ↔ ∃ s, outcome = .ok s := by
  cases h with
  | loaded s =>
    refine iff_of_true (fun stage hs => List.mem_flatMap.mpr ⟨stage, hs, ?_⟩) ⟨s, rfl⟩
    simp [passedLines]
  | failed passed c hp =>
    refine iff_of_false (fun h => ?_) (by simp)
    have hmem : completeLine c.stage ∈ passed.flatMap (passedLines path file) := by
      simpa [completeLine_ne_startLine, completeLine_ne_failureLine] using
        h c.stage (hp.subset (by simp))
    exact not_passed hn hp (passed_of_completeLine hmem)
  | broken passed stage e hp _ _ =>
    refine iff_of_false (fun h => ?_) (by simp)
    have hmem : completeLine stage ∈ passed.flatMap (passedLines path file) := by
      simpa [completeLine_ne_startLine] using h stage (hp.subset (by simp))
    exact not_passed hn hp (passed_of_completeLine hmem)

theorem run_shown {handler : Message → Text} (h : Log.Plain .info handler) (source : SchemaSource)
    (path : Text) (file : FileState) :
    ∃ lines, (run source path file).log.flatMap handler = Text.unlines lines ∧
      Text.lines Text.isBreak (Text.unlines lines) = lines ∧
      Told path file stages (run source path file).outcome lines ∧
      ((∀ stage ∈ stages, completeLine stage ∈ lines) ↔
        ∃ s, (run source path file).outcome = .ok s) := by
  have htold := told_run source path file
  have hcomplete := htold.complete_iff (by decide)
  exact ⟨_, h.flatMap_eq _, Text.lines_unlines htold.unbroken, htold, hcomplete⟩

theorem run_shown_missing :
    let handler : Message → Text := fun m => (Sink.ofLevel .info).shown [m]
    let registry : Registry := ⟨[⟨"AB", false, [], rfl⟩], by simp, by simp⟩
    let l := run (.registry registry) "c" .missing
    Log.Plain .info handler ∧ ∃ lines, l.log.flatMap handler = Text.unlines lines ∧
      Told "c" .missing stages (.error (.config (.fileMissing "c"))) lines ∧
      ¬ ∀ stage ∈ stages, completeLine stage ∈ lines := by
  intro handler registry l
  have houtcome : l.outcome = .error (.config (.fileMissing "c")) := rfl
  obtain ⟨lines, hlines, -, htold, hall⟩ :=
    run_shown (Log.plain_sink .info) (.registry registry) "c" .missing
  rw [houtcome] at htold hall
  exact ⟨Log.plain_sink .info, lines, hlines, htold, by simp [hall]⟩

theorem run_half_path :
    ¬ ∀ (handler : Message → Text) (source : SchemaSource) (path : Text) (file : FileState)
      (e : Error), Log.Plain .info handler → .char '\x00' ∉ path →
      (run source path file).outcome = .error e → (∀ c, e ≠ .config c) →
      (run source path file).log.flatMap handler = Text.unlines [startLine path file .schema] := by
  intro h
  let registry : Registry := ⟨[⟨"AB", false, [], rfl⟩], by simp, by simp⟩
  let l := run (.registry registry) [.half 0] .missing
  have houtcome : l.outcome = .error (.unencodable ⟨0, 0, .half 0⟩) := rfl
  have hlog : l.log = [Log.start "schema" [], Log.complete "schema" [],
      Log.start "read" [("path", [.half 0])]] := rfl
  have hlines := h _ (.registry registry) [.half 0] .missing _ (Log.plain_sink .info) (by decide)
    houtcome (by simp)
  rw [hlog] at hlines
  exact absurd hlines (by decide +kernel)

end Load

end PropertyFile
