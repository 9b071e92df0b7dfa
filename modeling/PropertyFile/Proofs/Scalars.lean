import PropertyFile.Proofs.Declarations
import PropertyFile.Proofs.Numerals
import PropertyFile.Proofs.Registries

/-! Reading back a default that a schema states. -/

namespace PropertyFile

namespace Declaration

open Payload (Mapping)
open Traversal

variable {label n : Text} {p key entry x : Payload} {m es : Mapping} {d : Descriptor}
  {ds : List Descriptor} {r : Registry}

def States (es : Mapping) (n : Text) (x : Payload) : Prop :=
  ∃ before key m after, es = before ++ (key, .mapping m) :: after ∧ Payload.Names key n ∧
    Mapping.find? m "default" = some x ∧ ∀ e ∈ after, ¬ Payload.Names e.1 n

lemma exists_names (h : descriptor label key entry = .ok d) : ∃ name, key.Names name := by
  obtain ⟨o, ho, h⟩ := bind_eq_ok_iff.mp h
  cases o with
  | none => cases h
  | some name => exact ⟨name, Payload.optional_some_iff.mp ho⟩

lemma descriptor_mapping (h : descriptor label key (.mapping m) = .ok d) :
    key.Names d.name ∧ defaultText (m.find? "default") = .ok d.default := by
  obtain ⟨name, hname⟩ := exists_names h
  rw [descriptor_named hname] at h
  obtain ⟨unknown, -, h⟩ := bind_eq_ok_iff.mp h
  split at h
  · obtain ⟨mandatory, -, h⟩ := bind_eq_ok_iff.mp h
    obtain ⟨default, hdefault, h⟩ := bind_eq_ok_iff.mp h
    obtain ⟨rfl, -, rfl⟩ := Descriptor.make_eq_ok_iff.mp h
    exact ⟨hname, hdefault⟩
  · cases h

lemma names_of_descriptor (h : descriptor label key entry = .ok d) : key.Names d.name := by
  obtain ⟨name, hname⟩ := exists_names h
  cases entry with
  | mapping m => exact (descriptor_mapping h).1
  | null =>
    rw [descriptor_named hname] at h
    obtain ⟨rfl, -⟩ := Descriptor.make_eq_ok_iff.mp h
    exact hname
  | _ =>
    rw [descriptor_named hname] at h
    cases h

lemma last_of_states (h : es.mapM (fun e => descriptor label e.1 e.2) = .ok ds)
    (hx : States es n x) : ∃ d, Registry.Last ds n d ∧ defaultText (some x) = .ok d.default := by
  obtain ⟨before, key, m, after, rfl, hname, hdefault, hafter⟩ := hx
  obtain ⟨ds₁, d, ds₂, rfl, hd, hds⟩ := mapM_append_cons h
  obtain ⟨hdname, htext⟩ := descriptor_mapping hd
  refine ⟨d, ⟨ds₁, ds₂, rfl, hdname.unique hname, fun e he hen => ?_⟩, hdefault ▸ htext⟩
  obtain ⟨entry, hmem, hentry⟩ := exists_of_mem_right (mapM_eq_ok_iff.mp hds) he
  exact hafter entry hmem (hen ▸ names_of_descriptor hentry)

lemma holds_of_entries (h : entries label m = .ok es) : Holds (.mapping m) es := by
  unfold entries at h
  split at h
  · rename_i inner hkeys
    obtain ⟨ts, hts, h⟩ := bind_eq_ok_iff.mp h
    split at h
    · rename_i hnil
      obtain rfl := Except.ok.inj h
      have hlists := Payload.Mapping.others_ok_iff.mp hts
      exact .wrapped hkeys (hlists.eq_nil_iff.mp (List.isEmpty_iff.mp hnil))
    · cases h
  · rename_i hbare
    obtain rfl := Except.ok.inj h
    exact .bare hbare

lemma exists_holds (h : Registry.ofPayload label p = .ok r) : ∃ es, Holds p es := by
  cases p with
  | null => exact ⟨[], .null⟩
  | mapping m =>
    obtain ⟨es, hes, -⟩ := bind_eq_ok_iff.mp h
    exact ⟨es, holds_of_entries hes⟩
  | _ => cases h

lemma find?_of_states (h : Registry.ofPayload label p = .ok r) (hes : Holds p es)
    (hx : States es n x) :
    ∃ d, r.find? n = some d ∧ d.name = n ∧ defaultText (some x) = .ok d.default := by
  rw [ofPayload_of_holds hes] at h
  obtain ⟨ds, hds, hr⟩ := bind_eq_ok_iff.mp h
  obtain ⟨d, hlast, htext⟩ := last_of_states hds hx
  have hfind := ((Registry.ofDescriptors_eq_ok hr).2 n d).mpr hlast
  obtain ⟨_, _, -, hname, -⟩ := hlast
  exact ⟨d, hfind, hname, htext⟩

end Declaration

section Text

variable {i : ℤ} {t : Text}

lemma Payload.integerText_eq_ok (h : integerText i = .ok t) :
    t = Text.ofInt i ∧ (Nat.digits 10 i.natAbs).length ≤ digitLimit := by
  unfold integerText at h
  split at h
  · rename_i hcount
    refine ⟨(Except.ok.inj h).symm, ?_⟩
    by_cases hzero : i.natAbs = 0
    · simp [hzero]
    · rw [Double.digitCount, if_neg hzero] at hcount
      apply (Text.length_ofNat_le_iff (by decide)).mp
      simpa [Text.ofNat, Text.ofChars] using hcount
  · cases h

lemma Reference.names_ofInt (i : ℤ) : names (Text.ofInt i) = [] := by
  apply names_inert
  apply inert_of_not_dollar
  intro hmem
  rcases Text.isDigit_or_eq_of_mem_ofInt hmem with hdigit | hminus
  · exact absurd hdigit (by decide)
  · exact absurd hminus (by decide)

lemma Reference.names_boolean (b : Bool) : names (if b then "true" else "false") = [] := by
  cases b <;> decide

lemma Conversion.boolean_text (b : Bool) : boolean (if b then "true" else "false") = .ok b := by
  cases b <;> decide

end Text

namespace Store

variable {s : Store} {key : KeyRef} {d : Descriptor} {x : Payload}

def Reads (s : Store) (key : KeyRef) (n : Text) : Payload → Prop
  | .boolean b => s.getBoolean key = .ok b
  | .integer i => s.get key = .ok (Text.ofInt i) ∧ ∀ w : Width,
      (w.Fits i → s.getInteger w key = .ok i) ∧
      (¬ w.Fits i → s.getInteger w key =
        .error (ConfigError.invalidValue n (Text.ofInt i) w.name))
  | .text t => Reference.names t = [] → s.get key = .ok t
  | _ => True

lemma get_of_plain_default (hd : s.registry.require key = .ok d)
    (hnone : (s.values.find? d.name).getD [] = []) (ht : Reference.names d.default = []) :
    s.get key = .ok d.default := by
  rw [get_of_require hd, if_pos hnone, resolve, ht, Resolution.outcome_nil]
  rfl

lemma reads_boolean (b : Bool) (hd : s.registry.require key = .ok d)
    (hnone : (s.values.find? d.name).getD [] = [])
    (h : Declaration.defaultText (some (.boolean b)) = .ok d.default) :
    s.getBoolean key = .ok b := by
  have hdefault := (Except.ok.inj h).symm
  have hget := get_of_plain_default hd hnone (hdefault ▸ Reference.names_boolean b)
  rw [getBoolean, getAs_of_get hd hget, hdefault, Conversion.boolean_text]
  rfl

lemma reads_integer {i : ℤ} (hd : s.registry.require key = .ok d)
    (hnone : (s.values.find? d.name).getD [] = [])
    (h : Payload.integerText i = .ok d.default) : s.Reads key d.name (.integer i) := by
  obtain ⟨hdefault, hdigits⟩ := Payload.integerText_eq_ok h
  have hnumeral := Conversion.numeral_ofInt hdigits
  have hnames : Reference.names d.default = [] := hdefault ▸ Reference.names_ofInt i
  have hget : s.get key = .ok (Text.ofInt i) := hdefault ▸ get_of_plain_default hd hnone hnames
  refine ⟨hget, fun w => ⟨fun hfits => ?_, fun hfits => ?_⟩⟩
  · exact (getInteger_eq_ok_iff hd hget).mpr ⟨hnumeral, hfits⟩
  · refine getInteger_eq_error hd hget fun j hj => ?_
    rwa [hj.unique hnumeral]

lemma reads_of_defaultText (hd : s.registry.require key = .ok d)
    (hnone : (s.values.find? d.name).getD [] = [])
    (h : Declaration.defaultText (some x) = .ok d.default) : s.Reads key d.name x := by
  cases x with
  | boolean b => exact reads_boolean b hd hnone h
  | integer i => exact reads_integer hd hnone h
  | text t =>
    obtain rfl := Except.ok.inj h
    exact get_of_plain_default hd hnone
  | _ => trivial

theorem reads_stated_default (label : Text) (p : Payload) (r : Registry)
    (h : Registry.ofPayload label p = .ok r) :
    (∃ es, Declaration.Holds p es) ∧
    ∀ es n x, Declaration.Holds p es → Declaration.States es n x →
      ∀ (s : Store) (key : KeyRef), s.registry = r → key.name? = .ok n →
        (s.values.find? n).getD [] = [] → s.Reads key n x := by
  refine ⟨Declaration.exists_holds h, ?_⟩
  rintro es n x hes hx s key rfl hkey hnone
  obtain ⟨d, hfind, rfl, htext⟩ := Declaration.find?_of_states h hes hx
  exact reads_of_defaultText ((Registry.require_eq_ok_iff hkey).mpr hfind) hnone htext

theorem reads_stated_default_repeated :
    let es : Payload.Mapping := [(.text "AB", .mapping [(.text "default", .boolean true)]),
      (.text " AB", .mapping [(.text "default", .integer 300)]),
      (.text "CD", .mapping [(.text "default", .text " x\n")])]
    let r : Registry :=
      ⟨[⟨"AB", false, "300", rfl⟩, ⟨"CD", false, " x\n", rfl⟩], by simp, by decide⟩
    let s : Store := ⟨r, [("CD", [])], by decide⟩
    Registry.ofPayload "s" (.mapping [(.text "keys", .mapping es)]) = .ok r ∧
      Declaration.States es "AB" (.integer 300) ∧ Declaration.States es "CD" (.text " x\n") ∧
      s.getInteger .short (.name "AB") = .ok 300 ∧ s.getInteger .byte (.name "AB") =
        .error (ConfigError.invalidValue "AB" (Text.ofInt 300) "byte") ∧
      s.get (.name "CD") = .ok " x\n" := by
  intro es r s
  have hr : Registry.ofPayload "s" (.mapping [(.text "keys", .mapping es)]) = .ok r := rfl
  have hes : Declaration.Holds (.mapping [(.text "keys", .mapping es)]) es := .wrapped rfl rfl
  have hab : Payload.Names (.text " AB") "AB" := ⟨nofun, _, rfl, rfl, rfl⟩
  have hcd : Payload.Names (.text "CD") "CD" := ⟨nofun, _, rfl, rfl, rfl⟩
  have hne : ¬ Payload.Names (.text "CD") "AB" := fun h => absurd (h.unique hcd) (by decide)
  have habstates : Declaration.States es "AB" (.integer 300) := by
    refine ⟨[_], _, _, [_], rfl, hab, rfl, fun e he => ?_⟩
    rwa [List.mem_singleton.mp he]
  have hcdstates : Declaration.States es "CD" (.text " x\n") :=
    ⟨[_, _], _, _, [], rfl, hcd, rfl, nofun⟩
  obtain ⟨-, hreads⟩ := reads_stated_default "s" _ r hr
  obtain ⟨-, hwidths⟩ := hreads es "AB" _ hes habstates s (.name "AB") rfl rfl rfl
  have htext := hreads es "CD" _ hes hcdstates s (.name "CD") rfl rfl rfl
  exact ⟨hr, habstates, hcdstates, (hwidths .short).1 (by decide), (hwidths .byte).2 (by decide),
    htext (by decide)⟩

end Store

end PropertyFile
