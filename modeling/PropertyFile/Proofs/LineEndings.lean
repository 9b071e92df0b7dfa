import PropertyFile.Load
import PropertyFile.Proofs.Paths
import PropertyFile.Proofs.Encoding
import PropertyFile.Proofs.Inputs
import PropertyFile.Proofs.Parts

/-! The lines of a file and of a text in memory are the same to a reader, as long as the text has no
other breaks than a file has. -/

namespace PropertyFile

namespace Text

def terminated : Text → List Text
  | [] => []
  | c :: t => if c == '\n' then [c] :: terminated t else pushFirst c (terminated t)

def Ends (l m : Text) : Prop := m = l ∨ m = l ++ [.char '\n']

variable {p q : CodePoint → Bool} {t l m : Text} {c : CodePoint} {ls ms : List Text}

lemma Ends.cons (c : CodePoint) (h : Ends l m) : Ends (c :: l) (c :: m) := by
  rcases h with rfl | rfl
  · exact .inl rfl
  · exact .inr rfl

lemma Ends.trim_eq (h : Ends l m) : trim l = trim m := by
  rcases h with rfl | rfl
  · rfl
  · exact (trim_append_blank l rfl).symm

lemma forall₂_pushFirst (c : CodePoint) (h : List.Forall₂ Ends ls ms) :
    List.Forall₂ Ends (pushFirst c ls) (pushFirst c ms) := by
  cases h with
  | nil => exact .cons (.inl rfl) .nil
  | cons h hs => exact .cons (h.cons c) hs

theorem terminated_unified (t : Text) :
    List.Forall₂ Ends (lines isFileBreak t) (terminated (unified t)) := by
  fun_induction lines isFileBreak t with
  | case1 => exact .nil
  | case2 t ih => exact .cons (.inr rfl) ih
  | case3 c t hpair hc ih =>
    -- a carriage return and a line feed end a line in the same way, the one being made the other
    have hfeed : (if c == CodePoint.char '\r' then CodePoint.char '\n' else c) = '\n' := by
      simp only [isFileBreak, Bool.or_eq_true, beq_iff_eq] at hc
      rcases hc with rfl | rfl <;> rfl
    rw [unified, hfeed]
    · exact .cons (.inr rfl) ih
    · exact hpair
  | case4 c t hpair hc ih =>
    simp only [isFileBreak, Bool.or_eq_true, beq_iff_eq, not_or] at hc
    rw [unified, if_neg (by simpa using hc.2), terminated, if_neg (by simpa using hc.1)]
    · exact forall₂_pushFirst c ih
    · exact hpair

lemma lines_congr (h : ∀ c ∈ t, p c = q c) : lines p t = lines q t := by
  fun_induction lines p t with
  | case1 => rfl
  | case2 t ih =>
    rw [lines, ih fun c hc => h c (by simp [hc])]
  | case3 c t hpair hc ih =>
    obtain ⟨hq, ht⟩ := List.forall_mem_cons.mp h
    rw [lines, if_pos (hq ▸ hc), ih ht]
    exact hpair
  | case4 c t hpair hc ih =>
    obtain ⟨hq, ht⟩ := List.forall_mem_cons.mp h
    rw [lines, if_neg (hq ▸ hc), ih ht]
    exact hpair

lemma isFileBreak_of_isBreak
    (h : c.toNat ∉ [0x0B, 0x0C, 0x1C, 0x1D, 0x1E, 0x85, 0x2028, 0x2029])
    (hc : isBreak c = true) : isFileBreak c = true := by
  have hfile : c.toNat = 0x0A ∨ c.toNat = 0x0D := by
    simp only [List.mem_cons, List.not_mem_nil, or_false, not_or] at h
    simp only [isBreak, within] at hc
    split_ifs at hc <;> omega
  rcases hfile with hn | hn
  · obtain rfl : c = '\n' := CodePoint.toNat_injective hn
    rfl
  · obtain rfl : c = '\r' := CodePoint.toNat_injective hn
    rfl

theorem lines_isBreak
    (h : ∀ c ∈ t, c.toNat ∉ [0x0B, 0x0C, 0x1C, 0x1D, 0x1E, 0x85, 0x2028, 0x2029]) :
    lines isBreak t = lines isFileBreak t := by
  apply lines_congr
  intro c hc
  exact Bool.eq_iff_iff.mpr ⟨isFileBreak_of_isBreak (h c hc), isBreak_of_isFileBreak⟩

end Text

namespace Store

variable {r : Registry} {ls ms : List Text}

theorem readFrom_congr (broken : Option Error) (number : ℕ) (pending : Option Entry) (s : Store)
    (h : List.Forall₂ (fun l m => Text.trim l = Text.trim m) ls ms) :
    readFrom r broken number pending s ls = readFrom r broken number pending s ms := by
  induction h generalizing number pending s with
  | nil => rfl
  | @cons l m ls ms hlm _ ih =>
    have hline : Line.ofText l = Line.ofText m := congrArg Line.ofTrimmed hlm
    simp only [readFrom, hline, ih]

end Store

namespace Load

variable {r : Registry} {path t : Text}

lemma read_encode (hpath : Path.Openable path) (ht : ∀ c ∈ t, c.isHalf = false) :
    read r path (.content (Utf8.encode t)) =
      Store.readLinesUnder r (Store.empty r) (Text.lines Text.isFileBreak t) := by
  rw [read, Path.fault?_eq_none_iff.mpr hpath.normal]
  simp only [readFile, Utf8.decode_encode t ht]
  rfl

theorem read_eq_readText (p : Reader) (path t : Text) (hpath : Path.Openable path)
    (hchars : ∀ c ∈ t, c.isHalf = false)
    (hbreaks : ∀ c ∈ t, c.toNat ∉ [0x0B, 0x0C, 0x1C, 0x1D, 0x1E, 0x85, 0x2028, 0x2029]) :
    let file := read p.registry path (.content (Utf8.encode t))
    file = (p.readText (Store.empty p.registry) t).2 ∧
    file = (p.read (Store.empty p.registry) (Text.terminated (Text.unified t))).2 := by
  intro file
  have hfile : file = Store.readLinesUnder p.registry (Store.empty p.registry)
      (Text.lines Text.isFileBreak t) := read_encode hpath hchars
  refine ⟨?_, ?_⟩
  · rw [hfile, Reader.readText, Text.lines_isBreak hbreaks, Reader.read_eq]
  · rw [hfile, Reader.read_eq]
    apply Store.readFrom_congr
    exact (Text.terminated_unified t).imp fun l m h => h.trim_eq

theorem read_eq_readText_mixed :
    let r : Registry := ⟨[⟨Text.ofChars ['A', 'B'], false, [], rfl⟩], by simp, by decide⟩
    let p : Reader := ⟨r, some ⟨Text.ofChars ['C', 'D'], []⟩⟩
    let t := Text.ofChars
      ['A', 'B', '=', 'é', '\r', '\n', 'x', '\r', '\n', '\n', 'C', 'D', '=', '1', '=', '2', '\r']
    let path := Text.ofChars ['a']
    (Path.Openable path ∧ (∀ c ∈ t, c.isHalf = false) ∧
      ∀ c ∈ t, c.toNat ∉ [0x0B, 0x0C, 0x1C, 0x1D, 0x1E, 0x85, 0x2028, 0x2029]) ∧
    read r path (.content (Utf8.encode t)) = (p.readText (Store.empty r) t).2 ∧
    (read r path (.content (Utf8.encode t))).failure =
      some (ConfigError.malformedLine 4 (Text.ofChars ['C', 'D', '=', '1', '=', '2'])) := by
  intro r p t path
  have hpath : Path.Openable path := by decide
  have hchars : ∀ c ∈ t, c.isHalf = false := by decide
  have hbreaks : ∀ c ∈ t, c.toNat ∉ [0x0B, 0x0C, 0x1C, 0x1D, 0x1E, 0x85, 0x2028, 0x2029] := by
    decide
  obtain ⟨htext, -⟩ := read_eq_readText p path t hpath hchars hbreaks
  refine ⟨⟨hpath, hchars, hbreaks⟩, htext, ?_⟩
  rw [htext]
  decide

end Load

end PropertyFile
