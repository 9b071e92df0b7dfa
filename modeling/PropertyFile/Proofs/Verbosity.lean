import PropertyFile.Proofs.Console
import PropertyFile.Proofs.Phases

/-! A verbose command differs from a quiet one in the lines of the phases and in nothing else. -/

namespace PropertyFile.Command

variable {o : Outside} {decode : Decoder} {r : Request} {schema config : FileState} {s : Store}
  {e : Error} {value : Option Text}

lemma Fails.verbose (h : Fails decode r schema config e) (verbose : Bool) :
    Fails decode { r with verbose := verbose } schema config e := by
  cases h with
  | load hl => exact .load hl
  | value hl ha => exact .value hl ha

lemma logged_quiet (o : Outside) (r : Request) (schema config : FileState) :
    logged o { r with verbose := false } schema config = [] := rfl

lemma logged_verbose (h : Log.Plain .info o.handler) (r : Request) (schema config : FileState) :
    logged o { r with verbose := true } schema config =
      Text.unlines ((Sink.ofLevel .info).lines (load o.decode r schema config).log) := by
  have hnotes : (Sink.ofLevel .info).lines (messages o.decode r schema config) =
      (Sink.ofLevel .info).lines (load o.decode r schema config).log := by
    rw [messages, Sink.lines_append]
    cases (load o.decode r schema config).outcome with
    | error e => simp [Sink.lines]
    | ok s => simp [askedNotes, Sink.lines_notes]
  rw [← hnotes, ← h.flatMap_eq]
  rfl

lemma lines_of_load (decode : Decoder) (r : Request) (schema config : FileState) :
    let lines := (Sink.ofLevel .info).lines (load decode r schema config).log
    (∀ registry, SchemaFile.read decode r.schema schema = .ok registry →
      Load.Told r.config config Load.stages (load decode r schema config).outcome lines) ∧
    ∀ e, SchemaFile.read decode r.schema schema = .error e → lines = [] := by
  refine ⟨fun registry h => ?_, fun e h => ?_⟩
  · rw [load, h]
    exact Load.told_run (.registry registry) r.config config
  · rw [load, h]
    rfl

lemma verbose_eq (o : Outside) (r : Request) (schema config : FileState)
    (handlers handlers' : List (Message → Text)) :
    let quiet := (perform o { r with verbose := false } schema config (.silent handlers)).1
    let loud := (perform o { r with verbose := true } schema config (.silent handlers')).1
    loud = { quiet with
      stderr := logged o { r with verbose := true } schema config ++ quiet.stderr } := by
  rcases fails_or_loads o.decode r schema config with ⟨e, h⟩ | ⟨s, value, hl, ha⟩
  · have hquiet := (perform_of_failure (h.verbose false) handlers).1
    have hloud := (perform_of_failure (h.verbose true) handlers').1
    simp only [hquiet, hloud, logged_quiet, List.nil_append]
    rfl
  · have hquiet := (perform_of_loaded (r := { r with verbose := false }) hl ha handlers).1
    have hloud := (perform_of_loaded (r := { r with verbose := true }) hl ha handlers').1
    simp only [hquiet, hloud, logged_quiet, List.append_nil]
    rfl

lemma disabled_of_perform (o : Outside) (r : Request) (schema config : FileState)
    (handlers : List (Message → Text)) :
    (perform o r schema config (.silent handlers)).2.enabled = false := by
  rcases fails_or_loads o.decode r schema config with ⟨e, h⟩ | ⟨s, value, hl, ha⟩
  · exact (perform_of_failure h handlers).2
  · exact (perform_of_loaded hl ha handlers).2

theorem perform_verbose (o : Outside) (h : Log.Plain .info o.handler) (r : Request)
    (schema config : FileState) (handlers handlers' : List (Message → Text)) :
    let quiet := (perform o { r with verbose := false } schema config (.silent handlers)).1
    let loud := perform o { r with verbose := true } schema config (.silent handlers')
    loud.2.enabled = false ∧
    ∃ lines, loud.1 = { quiet with stderr := Text.unlines lines ++ quiet.stderr } ∧
      (∀ registry, SchemaFile.read o.decode r.schema schema = .ok registry →
        Load.Told r.config config Load.stages (load o.decode r schema config).outcome lines) ∧
      ∀ e, SchemaFile.read o.decode r.schema schema = .error e → lines = [] ∧ loud.1 = quiet := by
  intro quiet loud
  obtain ⟨hphases, hnone⟩ := lines_of_load o.decode r schema config
  have hlines := verbose_eq o r schema config handlers handlers'
  simp only [logged_verbose h r schema config] at hlines
  refine ⟨disabled_of_perform o _ schema config handlers', _, hlines, hphases, fun e he => ?_⟩
  refine ⟨hnone e he, hlines.trans ?_⟩
  rw [hnone e he]
  rfl

theorem perform_verbose_missing :
    let decode : Decoder := fun t =>
      if t = "AB:" then .ok (.mapping [(.text "AB", .null)]) else .error (.notYaml [])
    let line (t : Text) : Except Error Text := .ok (t ++ "\n")
    let o : Outside := ⟨decode, line, line, fun m => (Sink.ofLevel .info).shown [m]⟩
    let schema : FileState := .content (Utf8.encode "AB:")
    let quiet := (perform o ⟨.check, "c", "s", false⟩ schema .missing (.silent [])).1
    let loud := (perform o ⟨.check, "c", "s", true⟩ schema .missing (.silent [])).1
    Log.Plain .info o.handler ∧ ∃ lines,
      loud = { quiet with stderr := Text.unlines lines ++ quiet.stderr } ∧
      Load.Told "c" .missing Load.stages (.error (.config (.fileMissing "c"))) lines := by
  intro decode line o schema quiet loud
  let registry : Registry := ⟨[⟨"AB", false, [], rfl⟩], by simp, by simp⟩
  have hschema : SchemaFile.read decode "s" schema = .ok registry := rfl
  have houtcome : (load decode ⟨.check, "c", "s", true⟩ schema .missing).outcome =
      .error (.config (.fileMissing "c")) := by
    rw [load, hschema]
    rfl
  obtain ⟨-, lines, hlines, htold, -⟩ := perform_verbose o (Log.plain_sink .info)
    ⟨.check, "c", "s", true⟩ schema .missing [] []
  exact ⟨Log.plain_sink .info, lines, hlines, houtcome ▸ htold registry hschema⟩

end PropertyFile.Command
