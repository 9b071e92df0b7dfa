import PropertyFile.Proofs.Declarations
import PropertyFile.Proofs.Paths
import PropertyFile.SchemaFile

/-! How reading a schema file fails, whatever reads its text as data. -/

namespace PropertyFile

def ConfigError.OfSchema (c : ConfigError) : Prop :=
  c.stage = .schema ∧ (c.kind = "EmptySchema" ∨ c.kind = "SchemaFileInvalid")

namespace Declaration

variable {label : Text} {key entry p : Payload} {c : ConfigError} {e : Error}

lemma Breaks.ofSchema (h : Breaks label key entry c) : c.OfSchema := by
  cases h <;> exact ⟨rfl, .inr rfl⟩

lemma Refuses.ofSchema (h : Refuses label p c) : c.OfSchema := by
  cases h with
  | shape => exact ⟨rfl, .inr rfl⟩
  | keys => exact ⟨rfl, .inr rfl⟩
  | empty => exact ⟨rfl, .inl rfl⟩
  | entry _ _ hbreaks => exact hbreaks.ofSchema

lemma ofPayload_ok_or_refuses (label : Text) (hs : p.Short) :
    (∃ r, Registry.ofPayload label p = .ok r) ∨ ∃ c, Refuses label p c := by
  rcases accepted_or_refused label hs with ⟨es, ds, hes, hne, hds⟩ | hc
  · obtain ⟨heq, hds'⟩ := ofPayload_of_accepted label hs hes hne hds
    obtain ⟨r, hr, -⟩ := Registry.ofDescriptors_ok hds'
    exact .inl ⟨r, heq.trans hr⟩
  · exact .inr hc

end Declaration

def FileState.text? : FileState → Option Text
  | .content bytes => (Utf8.decode bytes).toOption.map Text.unified
  | _ => none

/-- Every text stands for data, none of whose integers is too long to be written, or is found not to
be YAML. -/
def Decoder.Answers (decode : Decoder) : Prop :=
  ∀ t, (∃ p, decode t = .ok p ∧ p.Short) ∨ ∃ detail, decode t = .error (.notYaml detail)

namespace SchemaFile

def label (path : Text) : Text := "Schema " ++ Text.quoted (Path.normal path)

inductive Refuses (decode : Decoder) (path : Text) : FileState → ConfigError → Prop
  | missing : Refuses decode path .missing
      (.schemaUnreadable (Path.normal path) "No such file or directory")
  | unreadable {reason : Text} :
    Refuses decode path (.unreadable reason) (.schemaUnreadable (Path.normal path) reason)
  | notYaml {file : FileState} {t detail : Text} : file.text? = some t →
    decode t = .error (.notYaml detail) →
    Refuses decode path file (.schemaNotYaml (Path.normal path) detail)
  | entries {file : FileState} {t : Text} {p : Payload} {c : ConfigError} : file.text? = some t →
    decode t = .ok p → Declaration.Refuses (label path) p c → Refuses decode path file c

def Undecodable (file : FileState) (f : Utf8.Fault) : Prop :=
  ∃ bytes, file = .content bytes ∧ Utf8.decode bytes = .error f

variable {decode : Decoder} {path t : Text} {file : FileState} {p : Payload} {c : ConfigError}
  {e : Error}

lemma read_eq (hpath : Path.fault? (Path.normal path) = none) (file : FileState) :
    read decode path file = readFile decode (Path.normal path) file := by
  rw [read, hpath]

lemma readFile_of_text (h : file.text? = some t) :
    readFile decode path file = ofText decode path t := by
  cases file with
  | missing => cases h
  | unreadable reason => cases h
  | content bytes =>
    rw [readFile]
    cases hd : Utf8.decode bytes with
    | error f => simp [FileState.text?, hd, Except.toOption] at h
    | ok u =>
      obtain rfl : Text.unified u = t := by simpa [FileState.text?, hd, Except.toOption] using h
      rfl

lemma readFile_of_payload (ht : file.text? = some t) (hp : decode t = .ok p) :
    readFile decode (Path.normal path) file = Registry.ofPayload (label path) p := by
  rw [readFile_of_text ht, ofText, hp]
  rfl

lemma Refuses.ofSchema (h : Refuses decode path file c) : c.OfSchema := by
  cases h with
  | missing => exact ⟨rfl, .inr rfl⟩
  | unreadable => exact ⟨rfl, .inr rfl⟩
  | notYaml => exact ⟨rfl, .inr rfl⟩
  | entries _ _ hc => exact hc.ofSchema

lemma Refuses.readFile_eq (hy : decode.Answers) (h : Refuses decode path file c) :
    readFile decode (Path.normal path) file = .error (.config c) := by
  cases h with
  | missing => rfl
  | unreadable => rfl
  | notYaml ht hn => rw [readFile_of_text ht, ofText, hn]
  | @entries _ t _ _ ht hp hc =>
    rcases hy t with ⟨q, hq, hs⟩ | ⟨detail, hn⟩
    · obtain rfl := Except.ok.inj (hp.symm.trans hq)
      rw [readFile_of_payload ht hp]
      exact Declaration.ofPayload_of_refuses hs hc
    · rw [hp] at hn
      cases hn

lemma Undecodable.readFile_eq {f : Utf8.Fault} (h : Undecodable file f) :
    readFile decode path file = .error (.undecodable f) := by
  obtain ⟨bytes, rfl, hf⟩ := h
  rw [readFile, hf]

lemma readFile_ends (hy : decode.Answers) (path : Text) (file : FileState) :
    (∃ r, readFile decode (Path.normal path) file = .ok r) ∨
      (∃ c, Refuses decode path file c) ∨ ∃ f, Undecodable file f := by
  cases ht : file.text? with
  | some t =>
    rcases hy t with ⟨p, hp, hs⟩ | ⟨detail, hn⟩
    · rw [readFile_of_payload ht hp]
      rcases Declaration.ofPayload_ok_or_refuses (label path) hs with hr | ⟨c, hc⟩
      · exact .inl hr
      · exact .inr (.inl ⟨c, .entries ht hp hc⟩)
    · exact .inr (.inl ⟨_, .notYaml ht hn⟩)
  | none =>
    cases file with
    | missing => exact .inr (.inl ⟨_, .missing⟩)
    | unreadable reason => exact .inr (.inl ⟨_, .unreadable⟩)
    | content bytes =>
      cases hd : Utf8.decode bytes with
      | error f => exact .inr (.inr ⟨f, bytes, rfl, hd⟩)
      | ok u => simp [FileState.text?, hd, Except.toOption] at ht

lemma readFile_error_iff (hy : decode.Answers) (path : Text) (file : FileState) (e : Error) :
    readFile decode (Path.normal path) file = .error e ↔
      (∃ c, Refuses decode path file c ∧ e = .config c) ∨
        ∃ f, Undecodable file f ∧ e = .undecodable f := by
  constructor
  · intro h
    rcases readFile_ends hy path file with ⟨r, hr⟩ | ⟨c, hc⟩ | ⟨f, hf⟩
    · rw [hr] at h
      cases h
    · rw [hc.readFile_eq hy] at h
      exact .inl ⟨c, hc, (Except.error.inj h).symm⟩
    · rw [hf.readFile_eq] at h
      exact .inr ⟨f, hf, (Except.error.inj h).symm⟩
  · rintro (⟨c, hc, rfl⟩ | ⟨f, hf, rfl⟩)
    · exact hc.readFile_eq hy
    · exact hf.readFile_eq

theorem read_error_iff (hy : decode.Answers) (path : Text) (file : FileState) :
    (Path.Openable path → ∀ e, read decode path file = .error e ↔
      (∃ c, Refuses decode path file c ∧ e = .config c) ∨
        ∃ f, Undecodable file f ∧ e = .undecodable f) ∧
    (∀ e, Path.fault? (Path.normal path) = some e → read decode path file = .error e) ∧
    ∀ c, Refuses decode path file c → c.OfSchema := by
  refine ⟨fun hopen e => ?_, fun e he => ?_, fun c hc => hc.ofSchema⟩
  · rw [read_eq (Path.fault?_eq_none_iff.mpr hopen.normal)]
    exact readFile_error_iff hy path file e
  · rw [read, he]

theorem read_error_iff_scalar_entry :
    let decode : Decoder := fun t =>
      if t = "AB: x" then .ok (.mapping [(.text "AB", .text "x")]) else .error (.notYaml [])
    let file : FileState := .content (Utf8.encode "AB: x")
    let c : ConfigError := .schemaInvalid "Schema `s`" (.notEntry "AB")
    decode.Answers ∧ read decode "s" file = .error (.config c) ∧ c.OfSchema := by
  intro decode file c
  let payload : Payload := .mapping [(.text "AB", .text "x")]
  have htext : file.text? = some ("AB: x" : Text) := rfl
  have hpayload : decode "AB: x" = .ok payload := if_pos rfl
  have hanswers : decode.Answers := by
    intro t
    by_cases ht : t = "AB: x"
    · exact .inl ⟨payload, if_pos ht, trivial, trivial, trivial⟩
    · exact .inr ⟨[], if_neg ht⟩
  have hrefuses : Refuses decode "s" file c := by
    have hholds : Declaration.Holds payload ([] ++ (.text "AB", .text "x") :: []) :=
      .bare fun inner h => by cases h
    have hname : Payload.Names (.text "AB") "AB" := ⟨by simp, _, rfl, rfl, rfl⟩
    have hbreaks : Declaration.Breaks (label "s") (.text "AB") (.text "x") c :=
      .shape hname (by simp) (by simp)
    exact .entries htext hpayload (.entry hholds (by simp) hbreaks)
  obtain ⟨herror, -, hschema⟩ := read_error_iff hanswers "s" file
  have hopen : Path.Openable "s" := by decide
  exact ⟨hanswers, (herror hopen _).mpr (.inl ⟨c, hrefuses, rfl⟩), hschema c hrefuses⟩

theorem read_broken_byte :
    ¬ ∀ (decode : Decoder) (path : Text) (file : FileState), decode.Answers → Path.Openable path →
      ∀ e, read decode path file = .error e → ∃ c, e = .config c ∧ c.OfSchema := by
  intro h
  have hanswers : Decoder.Answers fun _ => .error (.notYaml []) := fun t => .inr ⟨[], rfl⟩
  have hopen : Path.Openable "s" := by decide
  have hbroken : read (fun _ => .error (.notYaml [])) "s" (.content [0xff]) =
      .error (.undecodable ⟨.start, 0, 1, 0xff⟩) := rfl
  obtain ⟨c, hc, -⟩ := h _ "s" (.content [0xff]) hanswers hopen _ hbroken
  cases hc

end SchemaFile

end PropertyFile
