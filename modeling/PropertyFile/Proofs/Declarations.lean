import Mathlib.Tactic
import PropertyFile.Declaration
import PropertyFile.Proofs.Collection
import PropertyFile.Proofs.Payloads

/-! The grammar of schemas: which entries are good and what they declare, and which rule a bad one
breaks first. -/

namespace PropertyFile.Declaration

open Payload (Lists Mapping Names Nameless Says Short ShortPairs words)
open Traversal

inductive Flags : Option Payload → Bool → Prop
  | absent : Flags none false
  | present {p : Payload} {b : Bool} : p.Says b → Flags (some p) b

def Composite : Payload → Prop
  | .list _ | .mapping _ => True
  | _ => False

inductive Defaults : Option Payload → Text → Prop
  | absent : Defaults none []
  | null : Defaults (some .null) []
  | boolean (b : Bool) : Defaults (some (.boolean b)) (if b then "true" else "false")
  | scalar {p : Payload} {t : Text} : p ≠ .null → (∀ b, p ≠ .boolean b) → ¬ Composite p →
    p.shown = .ok t → Defaults (some p) t

inductive Declares (key : Payload) : Payload → Descriptor → Prop
  | bare {d : Descriptor} : key.Names d.name → d.mandatory = false → d.default = [] →
    Declares key .null d
  | fields {m : Mapping} {d : Descriptor} : key.Names d.name → m.outside fields = [] →
    Flags (m.find? "mandatory") d.mandatory → Defaults (m.find? "default") d.default →
    Declares key (.mapping m) d

inductive Breaks (label : Text) (key : Payload) : Payload → ConfigError → Prop
  | name {entry : Payload} : key.Nameless →
    Breaks label key entry (.schemaInvalid label .blankName)
  | shape {entry : Payload} {name : Text} : key.Names name → entry ≠ .null →
    (∀ m, entry ≠ .mapping m) → Breaks label key entry (.schemaInvalid label (.notEntry name))
  | fields {m : Mapping} {name : Text} {ts : List Text} : key.Names name → ts ≠ [] →
    Lists (m.outside fields) ts →
    Breaks label key (.mapping m) (.schemaInvalid label (.unsupportedFields name ts))
  | flag {m : Mapping} {p : Payload} {name : Text} : key.Names name → m.outside fields = [] →
    m.find? "mandatory" = some p → (∀ b, ¬ p.Says b) →
    Breaks label key (.mapping m) (.schemaInvalid label (.notBoolean name))
  | default {m : Mapping} {p : Payload} {name : Text} {b : Bool} : key.Names name →
    m.outside fields = [] → Flags (m.find? "mandatory") b → m.find? "default" = some p →
    Composite p → Breaks label key (.mapping m) .defaultNotScalar

inductive Holds : Payload → Mapping → Prop
  | null : Holds .null []
  | bare {m : Mapping} : (∀ inner, m.find? "keys" ≠ some (.mapping inner)) → Holds (.mapping m) m
  | wrapped {m inner : Mapping} : m.find? "keys" = some (.mapping inner) →
    m.outside ["keys"] = [] → Holds (.mapping m) inner

inductive Refuses (label : Text) : Payload → ConfigError → Prop
  | shape {p : Payload} : p ≠ .null → (∀ m, p ≠ .mapping m) →
    Refuses label p (.schemaInvalid label .notMapping)
  | keys {m inner : Mapping} {ts : List Text} : m.find? "keys" = some (.mapping inner) →
    ts ≠ [] → Lists (m.outside ["keys"]) ts →
    Refuses label (.mapping m) (.schemaInvalid label (.unsupportedKeys ts))
  | empty {p : Payload} : Holds p [] → Refuses label p .emptySchema
  | entry {p key entry : Payload} {before after : Mapping} {c : ConfigError} :
    Holds p (before ++ (key, entry) :: after) → (∀ e ∈ before, ∃ d, Declares e.1 e.2 d) →
    Breaks label key entry c → Refuses label p c

section Entry

variable {label name : Text} {key entry : Payload} {field : Option Payload} {m : Mapping}
  {d : Descriptor} {c : ConfigError} {e : Error}

lemma flag_of_flags {b : Bool} (hs : ∀ p ∈ field, p.Short) (h : Flags field b) :
    flag label name field = .ok b := by
  cases h with
  | absent => rfl
  | @present p b hb =>
    obtain ⟨x, hx, hword⟩ := Payload.permissive_of_short (hs p rfl)
    obtain rfl := (hword b).mpr hb
    simp [flag, hx, bind, Except.bind]

lemma flag_of_silent {p : Payload} (hs : p.Short) (h : ∀ b, ¬ p.Says b) :
    flag label name (some p) = invalid label (.notBoolean name) := by
  obtain ⟨x, hx, hword⟩ := Payload.permissive_of_short hs
  have hnone : x = none := Option.eq_none_iff_forall_ne_some.mpr fun b hb => h b ((hword b).mp hb)
  simp [flag, hx, hnone, bind, Except.bind]

lemma defaultText_of_defaults {t : Text} (h : Defaults field t) : defaultText field = .ok t := by
  cases h with
  | absent => rfl
  | null => rfl
  | boolean b => rfl
  | @scalar p t hn hb hc ht =>
    rw [← ht]
    cases p with
    | null => exact absurd rfl hn
    | boolean b => exact absurd rfl (hb b)
    | list l => exact absurd trivial hc
    | mapping m => exact absurd trivial hc
    | integer i => rfl
    | number x => rfl
    | text t => rfl

lemma defaultText_of_composite {p : Payload} (h : Composite p) :
    defaultText (some p) = .error (.config .defaultNotScalar) := by
  cases p <;> first | rfl | cases h

lemma defaults_total (hs : ∀ p ∈ field, p.Short) :
    (∃ t, Defaults field t) ∨ ∃ p, field = some p ∧ Composite p := by
  cases field with
  | none => exact .inl ⟨_, .absent⟩
  | some p =>
    by_cases hn : p = .null
    · subst hn
      exact .inl ⟨_, .null⟩
    · by_cases hb : ∃ b, p = .boolean b
      · obtain ⟨b, rfl⟩ := hb
        exact .inl ⟨_, .boolean b⟩
      · by_cases hc : Composite p
        · exact .inr ⟨p, rfl, hc⟩
        · obtain ⟨t, ht⟩ := Payload.shown_of_short (hs p rfl)
          exact .inl ⟨t, .scalar hn (fun b hp => hb ⟨b, hp⟩) hc ht⟩

lemma names_total (hs : key.Short) : key.Nameless ∨ ∃ name, key.Names name := by
  obtain ⟨x, hx⟩ := Payload.optional_of_short hs
  cases x with
  | none => exact .inl (Payload.optional_none_iff.mp hx)
  | some name => exact .inr ⟨name, Payload.optional_some_iff.mp hx⟩

lemma descriptor_named (h : key.Names name) : descriptor label key entry =
    match entry with
    | .null => Descriptor.plain name
    | .mapping m => do
      let unknown ← Mapping.others m fields
      if unknown.isEmpty then do
        let mandatory ← flag label name (Mapping.find? m "mandatory")
        let default ← defaultText (Mapping.find? m "default")
        Descriptor.make name mandatory default
      else invalid label (.unsupportedFields name unknown)
    | _ => invalid label (.notEntry name) := by
  rw [descriptor, Payload.optional_some_iff.mpr h]
  rfl

lemma others_of_known {known : List Text} (h : m.outside known = []) : m.others known = .ok [] := by
  rw [Mapping.others_ok_iff, h]
  exact ⟨.nil, [], .nil, .nil⟩

theorem descriptor_of_declares (hs : entry.Short) (h : Declares key entry d) :
    descriptor label key entry = .ok d := by
  cases h with
  | bare hname hm hd =>
    rw [descriptor_named hname]
    exact Descriptor.make_eq_ok_iff.mpr ⟨rfl, hm, hd⟩
  | fields hname ho hf hd =>
    rw [descriptor_named hname]
    simp only [others_of_known ho, flag_of_flags (fun p => Mapping.short_of_find? hs) hf,
      defaultText_of_defaults hd, bind, Except.bind]
    exact Descriptor.make_eq_ok_iff.mpr ⟨rfl, rfl, rfl⟩

theorem descriptor_of_breaks (hs : entry.Short) (h : Breaks label key entry c) :
    descriptor label key entry = .error c := by
  cases h with
  | name hname =>
    rw [descriptor, Payload.optional_none_iff.mpr hname]
    rfl
  | shape hname hnull hmapping =>
    rw [descriptor_named hname]
    cases entry with
    | null => exact absurd rfl hnull
    | mapping m => exact absurd rfl (hmapping m)
    | _ => rfl
  | fields hname hne hlists =>
    rw [descriptor_named hname]
    simp only [Mapping.others_ok_iff.mpr hlists, bind, Except.bind]
    exact if_neg (by simpa using hne)
  | flag hname ho hf hsilent =>
    rw [descriptor_named hname]
    simp only [others_of_known ho, hf, flag_of_silent (Mapping.short_of_find? hs hf) hsilent, bind,
      Except.bind]
    rfl
  | default hname ho hf hd hc =>
    rw [descriptor_named hname]
    simp only [others_of_known ho, flag_of_flags (fun p => Mapping.short_of_find? hs) hf, hd,
      defaultText_of_composite hc, bind, Except.bind]
    rfl

lemma mapping_declares_or_breaks (label : Text) (hname : key.Names name) (hs : ShortPairs m) :
    (∃ d, Declares key (.mapping m) d) ∨ ∃ c, Breaks label key (.mapping m) c := by
  obtain ⟨ts, hts⟩ := Mapping.others_of_short hs fields
  have hlists := Mapping.others_ok_iff.mp hts
  -- the cases follow the order of the rules: fields first, then the flag, then the default
  by_cases ho : m.outside fields = []
  · by_cases hf : ∃ b, Flags (m.find? "mandatory") b
    · obtain ⟨b, hb⟩ := hf
      have hd : ∀ p ∈ m.find? "default", p.Short := fun p => Mapping.short_of_find? hs
      rcases defaults_total hd with ⟨t, ht⟩ | ⟨p, hp, hc⟩
      · exact .inl ⟨⟨name, b, t, hname.named⟩, .fields hname ho hb ht⟩
      · exact .inr ⟨_, .default hname ho hb hp hc⟩
    · cases hp : m.find? "mandatory" with
      | none =>
        rw [hp] at hf
        exact absurd ⟨false, .absent⟩ hf
      | some p =>
        rw [hp] at hf
        exact .inr ⟨_, .flag hname ho hp fun b hb => hf ⟨b, .present hb⟩⟩
  · exact .inr ⟨_, .fields hname (fun hnil => ho (hlists.eq_nil_iff.mp hnil)) hlists⟩

theorem declares_or_breaks (label : Text) (hk : key.Short) (hs : entry.Short) :
    (∃ d, Declares key entry d) ∨ ∃ c, Breaks label key entry c := by
  rcases names_total hk with hname | ⟨name, hname⟩
  · exact .inr ⟨_, .name hname⟩
  · by_cases hnull : entry = .null
    · subst hnull
      exact .inl ⟨⟨name, false, [], hname.named⟩, .bare hname rfl rfl⟩
    · by_cases hmapping : ∃ m, entry = .mapping m
      · obtain ⟨m, rfl⟩ := hmapping
        exact mapping_declares_or_breaks label hname hs
      · exact .inr ⟨_, .shape hname hnull fun m hm => hmapping ⟨m, hm⟩⟩

theorem descriptor_ok_iff (hk : key.Short) (hs : entry.Short) :
    descriptor label key entry = .ok d ↔ Declares key entry d := by
  refine ⟨fun h => ?_, descriptor_of_declares hs⟩
  rcases declares_or_breaks label hk hs with ⟨d', hd⟩ | ⟨c, hc⟩
  · rw [descriptor_of_declares hs hd] at h
    rwa [← Except.ok.inj h]
  · rw [descriptor_of_breaks hs hc] at h
    cases h

theorem descriptor_error_iff (hk : key.Short) (hs : entry.Short) :
    descriptor label key entry = .error e ↔ ∃ c, Breaks label key entry c ∧ e = .config c := by
  constructor
  · intro h
    rcases declares_or_breaks label hk hs with ⟨d, hd⟩ | ⟨c, hc⟩
    · rw [descriptor_of_declares hs hd] at h
      cases h
    · rw [descriptor_of_breaks hs hc] at h
      exact ⟨c, hc, (Except.error.inj h).symm⟩
  · rintro ⟨c, hc, rfl⟩
    exact descriptor_of_breaks hs hc

end Entry

section Schema

variable {label : Text} {p : Payload} {m es : Mapping} {ds : List Descriptor} {c : ConfigError}
  {e : Error}

lemma mapM_ok_iff (hs : ShortPairs es) :
    es.mapM (fun e => descriptor label e.1 e.2) = .ok ds ↔
      List.Forall₂ (fun e d => Declares e.1 e.2 d) es ds := by
  have hshort : ∀ e ∈ es, e.1.Short ∧ e.2.Short := fun e => Payload.short_of_mem hs
  rw [mapM_eq_ok_iff]
  constructor
  · intro h
    exact ((List.forall₂_and_left es ds).mpr ⟨hshort, h⟩).imp fun e d he =>
      (descriptor_ok_iff he.1.1 he.1.2).mp he.2
  · intro h
    exact ((List.forall₂_and_left es ds).mpr ⟨hshort, h⟩).imp fun e d he =>
      (descriptor_ok_iff he.1.1 he.1.2).mpr he.2

lemma mapM_error_iff (hs : ShortPairs es) :
    es.mapM (fun e => descriptor label e.1 e.2) = .error e ↔
      ∃ before key entry after c, es = before ++ (key, entry) :: after ∧
        (∀ e ∈ before, ∃ d, Declares e.1 e.2 d) ∧ Breaks label key entry c ∧ e = .config c := by
  have hshort {k v : Payload} (h : (k, v) ∈ es) : k.Short ∧ v.Short := Payload.short_of_mem hs h
  rw [mapM_eq_error_iff]
  constructor
  · rintro ⟨before, ⟨key, entry⟩, after, rfl, hbefore, he⟩
    obtain ⟨hk, hv⟩ := hshort (k := key) (v := entry) (by simp)
    obtain ⟨c, hc, rfl⟩ := (descriptor_error_iff hk hv).mp he
    refine ⟨before, key, entry, after, c, rfl, fun b hb => ?_, hc, rfl⟩
    obtain ⟨d, hd⟩ := hbefore b hb
    obtain ⟨hbk, hbv⟩ := hshort (List.mem_append_left _ hb)
    exact ⟨d, (descriptor_ok_iff hbk hbv).mp hd⟩
  · rintro ⟨before, key, entry, after, c, rfl, hbefore, hc, rfl⟩
    obtain ⟨hk, hv⟩ := hshort (k := key) (v := entry) (by simp)
    refine ⟨before, (key, entry), after, rfl, fun b hb => ?_, descriptor_of_breaks hv hc⟩
    obtain ⟨d, hd⟩ := hbefore b hb
    exact ⟨d, descriptor_of_declares (hshort (List.mem_append_left _ hb)).2 hd⟩

lemma ofPayload_of_holds (h : Holds p es) :
    Registry.ofPayload label p =
      es.mapM (fun e => descriptor label e.1 e.2) >>= Registry.ofDescriptors := by
  cases h with
  | null => rfl
  | @bare m hbare =>
    have hentries : entries label es = .ok es := by
      unfold entries
      split
      · exact absurd ‹_› (hbare _)
      · rfl
    rw [Registry.ofPayload, ofMapping, hentries]
    rfl
  | wrapped hkeys ho =>
    rw [Registry.ofPayload, ofMapping, entries, hkeys]
    simp only [others_of_known ho]
    rfl

lemma ofPayload_of_keys {inner : Mapping} {ts : List Text}
    (h : m.find? "keys" = some (.mapping inner)) (hne : ts ≠ [])
    (hlists : Lists (m.outside ["keys"]) ts) :
    Registry.ofPayload label (.mapping m) =
      .error (.config (.schemaInvalid label (.unsupportedKeys ts))) := by
  rw [Registry.ofPayload, ofMapping, entries, h]
  simp only [Mapping.others_ok_iff.mpr hlists, bind, Except.bind]
  simp [invalid, hne]

lemma short_of_holds (hs : p.Short) (h : Holds p es) : ShortPairs es := by
  cases h with
  | null => trivial
  | bare _ => exact hs
  | wrapped hkeys _ => exact Mapping.short_of_find? hs hkeys

lemma ofPayload_of_refuses (hs : p.Short) (h : Refuses label p c) :
    Registry.ofPayload label p = .error (.config c) := by
  cases h with
  | shape hnull hmapping =>
    cases p with
    | null => exact absurd rfl hnull
    | mapping m => exact absurd rfl (hmapping m)
    | _ => rfl
  | keys hkeys hne hlists => exact ofPayload_of_keys hkeys hne hlists
  | empty hholds =>
    rw [ofPayload_of_holds hholds]
    rfl
  | entry hholds hbefore hc =>
    rw [ofPayload_of_holds hholds, bind_eq_error_iff]
    exact .inl ((mapM_error_iff (short_of_holds hs hholds)).mpr
      ⟨_, _, _, _, _, rfl, hbefore, hc, rfl⟩)

lemma holds_or_refuses (label : Text) (hs : p.Short) :
    (∃ es, Holds p es) ∨ ∃ c, Refuses label p c := by
  by_cases hnull : p = .null
  · subst hnull
    exact .inl ⟨[], .null⟩
  · by_cases hmapping : ∃ m, p = .mapping m
    · obtain ⟨m, rfl⟩ := hmapping
      by_cases hkeys : ∃ inner, Mapping.find? m "keys" = some (.mapping inner)
      · obtain ⟨inner, hinner⟩ := hkeys
        obtain ⟨ts, hts⟩ := Mapping.others_of_short hs ["keys"]
        have hlists := Mapping.others_ok_iff.mp hts
        by_cases ho : Mapping.outside m ["keys"] = []
        · exact .inl ⟨inner, .wrapped hinner ho⟩
        · exact .inr ⟨_, .keys hinner (fun hnil => ho (hlists.eq_nil_iff.mp hnil)) hlists⟩
      · exact .inl ⟨m, .bare fun inner hinner => hkeys ⟨inner, hinner⟩⟩
    · exact .inr ⟨_, .shape hnull fun m hm => hmapping ⟨m, hm⟩⟩

lemma ofPayload_of_accepted (label : Text) (hs : p.Short) (h : Holds p es) (hne : es ≠ [])
    (hds : List.Forall₂ (fun e d => Declares e.1 e.2 d) es ds) :
    Registry.ofPayload label p = Registry.ofDescriptors ds ∧ ds ≠ [] := by
  constructor
  · rw [ofPayload_of_holds h, (mapM_ok_iff (short_of_holds hs h)).mpr hds]
    rfl
  · rintro rfl
    cases hds
    exact hne rfl

lemma accepted_or_refused (label : Text) (hs : p.Short) :
    (∃ es ds, Holds p es ∧ es ≠ [] ∧ List.Forall₂ (fun e d => Declares e.1 e.2 d) es ds) ∨
      ∃ c, Refuses label p c := by
  rcases holds_or_refuses label hs with ⟨es, hes⟩ | hc
  · by_cases hne : es = []
    · subst hne
      exact .inr ⟨_, .empty hes⟩
    · have hshort := short_of_holds hs hes
      cases hm : es.mapM (fun e => descriptor label e.1 e.2) with
      | ok ds => exact .inl ⟨es, ds, hes, hne, (mapM_ok_iff hshort).mp hm⟩
      | error e =>
        obtain ⟨before, key, entry, after, c, rfl, hbefore, hc, -⟩ := (mapM_error_iff hshort).mp hm
        exact .inr ⟨c, .entry hes hbefore hc⟩
  · exact .inr hc

lemma Breaks.kind {key entry : Payload} (h : Breaks label key entry c) :
    c.kind = "SchemaFileInvalid" := by
  cases h <;> rfl

theorem ofPayload_grammar (label : Text) (p : Payload) (h : p.Short) :
    (∀ es ds, Holds p es → es ≠ [] → List.Forall₂ (fun e d => Declares e.1 e.2 d) es ds →
      ∃ r, Registry.ofPayload label p = .ok r ∧
        r.names = (ds.map Descriptor.name).eraseDups ∧
        ∀ n, r.find? n = ds.reverse.find? fun d => d.name == n) ∧
    (∀ r, Registry.ofPayload label p = .ok r → ∃ es ds, Holds p es ∧ es ≠ [] ∧
      List.Forall₂ (fun e d => Declares e.1 e.2 d) es ds) ∧
    (∀ e, Registry.ofPayload label p = .error e ↔ ∃ c, Refuses label p c ∧ e = .config c) ∧
    ∀ c, Refuses label p c → c = .emptySchema ∨ c.kind = "SchemaFileInvalid" := by
  refine ⟨?_, ?_, ?_, ?_⟩
  · intro es ds hes hne hds
    obtain ⟨heq, hds'⟩ := ofPayload_of_accepted label h hes hne hds
    rw [heq]
    exact Registry.ofDescriptors_ok hds'
  · intro r hr
    rcases accepted_or_refused label h with haccepted | ⟨c, hc⟩
    · exact haccepted
    · rw [ofPayload_of_refuses h hc] at hr
      cases hr
  · intro e
    constructor
    · intro he
      rcases accepted_or_refused label h with ⟨es, ds, hes, hne, hds⟩ | ⟨c, hc⟩
      · obtain ⟨heq, hds'⟩ := ofPayload_of_accepted label h hes hne hds
        obtain ⟨r, hr, -⟩ := Registry.ofDescriptors_ok hds'
        rw [heq, hr] at he
        cases he
      · rw [ofPayload_of_refuses h hc] at he
        exact ⟨c, hc, (Except.error.inj he).symm⟩
    · rintro ⟨c, hc, rfl⟩
      exact ofPayload_of_refuses h hc
  · intro c hc
    cases hc with
    | shape => exact .inr rfl
    | keys => exact .inr rfl
    | empty => exact .inl rfl
    | entry _ _ hbreaks => exact .inr hbreaks.kind

theorem ofPayload_grammar_repeated :
    let es : Mapping := [(.text " AB", .mapping [(.text "mandatory", .text "Yes")]),
      (.integer 7, .null), (.text "AB", .mapping [(.text "default", .integer 80)])]
    Short (.mapping es) ∧ ∃ r, Registry.ofPayload "Schema" (.mapping es) = .ok r ∧
      r.names = (["AB", "7"] : List Text) ∧ r.find? "AB" = some ⟨"AB", false, "80", rfl⟩ := by
  intro es
  let ds : List Descriptor :=
    [⟨"AB", true, [], rfl⟩, ⟨"7", false, [], rfl⟩, ⟨"AB", false, "80", rfl⟩]
  have hdigits {n : ℕ} (hn : n < 10 ^ 2) : n < 10 ^ digitLimit :=
    hn.trans_le (Nat.pow_le_pow_right (by decide) (by decide))
  have hshort : Short (.mapping es) :=
    ⟨trivial, ⟨trivial, trivial, trivial⟩, hdigits (by decide), trivial, trivial,
      ⟨trivial, hdigits (by decide), trivial⟩, trivial⟩
  have hholds : Holds (.mapping es) es := .bare fun inner h => by cases h
  have hgood : List.Forall₂ (fun e d => Declares e.1 e.2 d) es ds := by
    refine .cons (.fields ⟨by simp, _, rfl, rfl, rfl⟩ rfl (.present ?_) .absent) ?_
    · exact .inr ⟨_, rfl, by decide⟩
    · refine .cons (.bare ⟨by simp, _, rfl, rfl, rfl⟩ rfl rfl) ?_
      refine .cons (.fields ⟨by simp, _, rfl, rfl, rfl⟩ rfl .absent ?_) .nil
      exact .scalar (by simp) (by simp) id rfl
  obtain ⟨r, hr, hnames, hfind⟩ :=
    (ofPayload_grammar "Schema" (.mapping es) hshort).1 es ds hholds (by simp [es]) hgood
  exact ⟨hshort, r, hr, hnames.trans (by decide), (hfind _).trans (by decide)⟩

end Schema

end PropertyFile.Declaration
