import Mathlib
import PropertyFile.Proofs.Pass
import PropertyFile.Proofs.Stages
import PropertyFile.Store.Typed

/-! A default in a loaded store cannot run into a cycle, since no loaded value refers to anything.
-/

namespace PropertyFile

open Reference (Inert Separated fill mem_names names names_inert pieces)
open Relation (TransGen)

namespace Resolution

variable {stored : Index Text} {n m v : Text}

def Plain (stored : Index Text) : Prop := ∀ n w, stored.find? n = some w → Inert w

namespace Plain

lemma not_leads (h : Plain stored) : ¬ Leads stored n m := by
  rintro ⟨w, hw, hm⟩
  rw [names_inert (h n w hw)] at hm
  cases hm

lemma resolves (h : Plain stored) (v : Text) : ∃ r, (resolve stored none v).outcome = .ok r := by
  cases ho : (resolve stored none v).outcome with
  | ok r => exact ⟨r, rfl⟩
  | error c =>
    obtain ⟨n, -, hn | hn⟩ := (cyclic_iff stored none v).mp ⟨c, ho⟩
    · cases hn
    · obtain ⟨m, hm, -⟩ := TransGen.head'_iff.mp hn
      exact absurd hm h.not_leads

lemma becomes (h : Plain stored) (n : Text) : Becomes stored n ((stored.find? n).getD []) := by
  cases hw : stored.find? n with
  | none => exact .inl ⟨hw, rfl⟩
  | some w => exact .inr ⟨w, hw, expands_inert (h n w hw)⟩

lemma expands (h : Plain stored) (v : Text) :
    Expands stored (pieces v) (fill (names v) (fun n => (stored.find? n).getD []) (pieces v)) :=
  expands_fill fun n s hm => ⟨mem_names.mpr ⟨s, hm⟩, h.becomes n⟩

lemma resolve_separated (h : Plain stored) (hv : Separated (pieces v)) :
    ∃ r, (resolve stored none v).outcome = .ok r ∧ Inert r ∧ Expands stored (pieces v) r := by
  obtain ⟨r, hr⟩ := h.resolves v
  -- a text without references is separated, so whatever the default reaches is
  have htidy : Tidy stored v := fun n w _ hw => Reference.separated_inert (h n w hw)
  obtain ⟨hexp, hinert⟩ := expands_of_ok _ v r hv htidy hr
  exact ⟨r, hr, hinert, hexp⟩

end Plain

end Resolution

namespace Store

open Resolution

variable {s : Store} {key : KeyRef} {d : Descriptor}

lemma get_of_require (h : s.registry.require key = .ok d) :
    s.get key =
      if (s.values.find? d.name).getD [] = [] then
        (resolve (visible s.registry s.values) none d.default).outcome.mapError fun c =>
          .config (.cyclicReference c)
      else .ok ((s.values.find? d.name).getD []) := by
  simp only [get, h, bind, Except.bind]
  -- a missing value and an empty one both read as the default
  rcases s.values.find? d.name with _ | _ | ⟨c, t⟩
  · cases (resolve (visible s.registry s.values) none d.default).outcome <;> rfl
  · cases (resolve (visible s.registry s.values) none d.default).outcome <;> rfl
  · rfl

lemma plain_of_resolveAll (hd : ∀ n ∈ s.values.names, s.registry.declares n = true)
    (hs : ∀ n w, s.values.find? n = some w → Separated (pieces w))
    (h : s.resolveAll.failure = none) : Plain s.resolveAll.store.values := by
  have hnone : (resolveFrom s.registry [] s.values).cycle = none := by
    simpa [resolveAll] using h
  have hend := (resolveFrom_midway [] hs hd s.nodup (Midway.start s.values)).1 hnone
  intro n w hw
  have hn : n ∈ s.resolveAll.store.values.names := Index.mem_names.mpr (by simp [hw])
  rw [names_resolveAll] at hn
  obtain ⟨_, -, -, hinert⟩ := hend.of_mem_done hn hw
  exact hinert

lemma get_of_plain (hd : ∀ n ∈ s.values.names, s.registry.declares n = true)
    (hp : Plain s.values) (h : s.registry.require key = .ok d)
    (hdefault : Separated (pieces d.default)) :
    ∃ v, s.get key = .ok v ∧ Inert v ∧
      ((s.values.find? d.name).getD [] ≠ [] → s.values.find? d.name = some v) ∧
      ((s.values.find? d.name).getD [] = [] → Expands s.values (pieces d.default) v) := by
  rw [get_of_require h, visible_of_declared hd]
  by_cases hvalue : (s.values.find? d.name).getD [] = []
  · obtain ⟨v, hv, hinert, hexp⟩ := hp.resolve_separated hdefault
    rw [if_pos hvalue, hv]
    exact ⟨v, rfl, hinert, absurd hvalue, fun _ => hexp⟩
  · rw [if_neg hvalue]
    cases hw : s.values.find? d.name with
    | none => simp [hw] at hvalue
    | some w =>
      rw [hw] at hvalue
      exact ⟨w, rfl, hp _ w hw, fun _ => rfl, fun he => absurd he hvalue⟩

end Store

namespace Load

variable {source : SchemaSource} {path : Text} {file : FileState} {s : Store}

lemma run_ok (h : (run source path file).outcome = .ok s) :
    ∃ raw : Store, raw = (read s.registry path file).store ∧ raw.registry = s.registry ∧
      raw.values.names = s.values.names ∧ (∀ n ∈ s.values.names, s.registry.declares n = true) ∧
      raw.resolveAll.failure = none ∧ raw.resolveAll.store = s := by
  obtain ⟨stage, hends⟩ := run_ends source path file
  rw [h] at hends
  obtain ⟨r, es, hsource, -, hloaded⟩ := hends.loads
  cases hends with
  | @loaded r' hr _ _ hpass =>
    obtain rfl := Except.ok.inj (hsource.symm.trans hr)
    refine ⟨(read r path file).store, ?_, rfl, (Store.names_resolveAll _).symm, ?_, hpass, rfl⟩
    · rw [hloaded.registry]
    · rw [hloaded.registry]
      exact hloaded.declared

theorem get_of_run (h : (run source path file).outcome = .ok s)
    (hs : ∀ n w, (read s.registry path file).store.values.find? n = some w → Separated (pieces w))
    (key : KeyRef) (d : Descriptor) (hd : s.registry.require key = .ok d)
    (hdefault : Separated (pieces d.default)) :
    ∃ v, s.get key = .ok v ∧ names v = [] ∧
      ((s.values.find? d.name).getD [] ≠ [] → s.values.find? d.name = some v) ∧
      ((s.values.find? d.name).getD [] = [] →
        (∀ x, Resolution.Expands s.values (pieces d.default) x ↔ x = v) ∧
        v = fill (names d.default) (fun n => (s.values.find? n).getD []) (pieces d.default)) := by
  obtain ⟨raw, hraw, hregistry, hnames, hdeclared, hok, hstore⟩ := run_ok h
  have hplain : Resolution.Plain s.values := by
    rw [← hstore]
    refine Store.plain_of_resolveAll ?_ (hraw ▸ hs) hok
    rwa [hregistry, hnames]
  obtain ⟨v, hv, hinert, hstored, hexp⟩ := Store.get_of_plain hdeclared hplain hd hdefault
  refine ⟨v, hv, names_inert hinert, hstored, fun hvalue => ⟨fun x => ?_, ?_⟩⟩
  · refine ⟨fun hx => hx.unique (hexp hvalue), ?_⟩
    rintro rfl
    exact hexp hvalue
  · exact (hexp hvalue).unique (hplain.expands d.default)

theorem get_of_run_circular :
    let declared (name : List Char) (default : Text)
        (h : Text.blank (Text.ofChars name) = false) : Descriptor :=
      ⟨Text.ofChars name, false, default, h⟩
    let default := Text.ofChars ['$', 'A', 'B', ' ', '$', '{', 'C', 'D', '}', '$', 'E', 'F']
    let r : Registry :=
      ⟨[declared ['A', 'B'] default rfl, declared ['C', 'D'] [] rfl,
        declared ['E', 'F'] (Text.ofChars ['x']) rfl, declared ['G', 'H'] [] rfl], by simp,
        by decide⟩
    let file : FileState := .content (Utf8.encode (Text.ofChars ['A', 'B', '=', '\n',
      'C', 'D', '=', '$', '{', 'G', 'H', '}', 'b', '\n', 'G', 'H', '=', '5', '$', '1']))
    let s : Store := ⟨r, [(Text.ofChars ['A', 'B'], []),
      (Text.ofChars ['C', 'D'], Text.ofChars ['5', '$', '1', 'b']),
      (Text.ofChars ['G', 'H'], Text.ofChars ['5', '$', '1'])], by decide⟩
    (run (.registry r) (Text.ofChars ['c']) file).outcome = .ok s ∧
    (∀ n w, (read r (Text.ofChars ['c']) file).store.values.find? n = some w →
      Separated (pieces w)) ∧ Separated (pieces default) ∧
    ∃ v, s.get (.name (Text.ofChars ['A', 'B'])) = .ok v ∧ names v = [] ∧
      v = Text.ofChars [' ', '5', '$', '1', 'b'] := by
  intro declared default r file s
  let raw : Store := ⟨r, [(Text.ofChars ['A', 'B'], []),
    (Text.ofChars ['C', 'D'], Text.ofChars ['$', '{', 'G', 'H', '}', 'b']),
    (Text.ofChars ['G', 'H'], Text.ofChars ['5', '$', '1'])], by decide⟩
  have hread : read r (Text.ofChars ['c']) file = ⟨raw, none,
      [.updatedKey (Text.ofChars ['A', 'B']), .updatedKey (Text.ofChars ['C', 'D']),
        .updatedKey (Text.ofChars ['G', 'H'])]⟩ := rfl
  have hfailure : raw.resolveAll.failure = none := Option.isNone_iff_eq_none.mp (by cbv)
  have hstore : raw.resolveAll.store = s := by
    have h : (Store.resolveFrom raw.registry [] raw.values).values = s.values := by cbv
    simp only [Store.resolveAll, h]
    rfl
  have hrun : (run (.registry r) (Text.ofChars ['c']) file).outcome = .ok s := by
    refine (run_of_stages rfl ?_ ?_ ?_).trans ?_
    · rw [hread]
    · rw [hread]
      rfl
    · rw [hread]
      exact hfailure
    · rw [hread, hstore]
  have hraw : ∀ n w, (read r (Text.ofChars ['c']) file).store.values.find? n = some w →
      Separated (pieces w) := by
    have hcd : pieces (Text.ofChars ['$', '{', 'G', 'H', '}', 'b']) =
        [.reference (Text.ofChars ['G', 'H']) (Text.ofChars ['$', '{', 'G', 'H', '}']),
          .plain 'b'] := by decide
    intro n w hw
    simp only [hread, raw, Index.find?] at hw
    split at hw
    · obtain rfl := Option.some.inj hw
      trivial
    · split at hw
      · obtain rfl := Option.some.inj hw
        simp [hcd, Separated, Reference.Piece.name?]
      · split at hw
        · obtain rfl := Option.some.inj hw
          exact Reference.separated_price
        · cases hw
  have hdefault : Separated (pieces default) := by
    have hpieces : pieces default =
        [.reference (Text.ofChars ['A', 'B']) (Text.ofChars ['$', 'A', 'B']), .plain ' ',
          .reference (Text.ofChars ['C', 'D']) (Text.ofChars ['$', '{', 'C', 'D', '}']),
          .reference (Text.ofChars ['E', 'F']) (Text.ofChars ['$', 'E', 'F'])] := by decide
    have hbraces : Text.ofChars ['$', '{', 'C', 'D', '}'] ≠
        Reference.bare (Text.ofChars ['C', 'D']) := by decide
    simp [hpieces, Separated, Reference.Piece.name?, hbraces]
  obtain ⟨v, hv, hnames, -, hfilled⟩ :=
    get_of_run hrun hraw (.name (Text.ofChars ['A', 'B'])) _ rfl hdefault
  exact ⟨hrun, hraw, hdefault, v, hv, hnames, (hfilled rfl).2.trans rfl⟩

end Load

end PropertyFile
