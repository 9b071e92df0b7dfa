import PropertyFile.Index
import PropertyFile.Reference

/-! Resolving the references of a text against stored values, name by name and each through its own
stored text. -/

namespace PropertyFile

structure Resolution where
  replacements : List (Text × Text)
  outcome : Except (List Text) Text

namespace Resolution

def cycle (chain : List Text) (name : Text) : List Text := chain.dropWhile (· != name) ++ [name]

def pending (stored : Index Text) (chain : List Text) : List Text :=
  stored.names.filter fun n => !chain.contains n

theorem length_pending_lt {stored : Index Text} {chain : List Text} {name v : Text}
    (hf : stored.find? name = some v) (hc : name ∉ chain) :
    (pending stored (chain ++ [name])).length < (pending stored chain).length := by
  have hm : name ∈ stored.names := Index.mem_names.2 (by simp [hf])
  have hsub : pending stored (chain ++ [name]) =
      (pending stored chain).filter fun n => !([name] : List Text).contains n := by
    simp only [pending, List.filter_filter]
    congr 1; funext n; simp [Bool.and_comm]
  rw [hsub]
  refine List.length_filter_lt_length_iff_exists.2 ⟨name, ?_, by simp⟩
  simp [pending, hm, hc]

def expand (stored : Index Text) (chain : List Text) : List Text → Text → Resolution
  | [], t => ⟨[], .ok t⟩
  | name :: names, t =>
    if _hc : name ∈ chain then ⟨[], .error (cycle chain name)⟩
    else match _hf : stored.find? name with
      | none =>
        let rest := expand stored chain names (Reference.replace name [] t)
        ⟨(name, []) :: rest.replacements, rest.outcome⟩
      | some v =>
        let inner := expand stored (chain ++ [name]) (Reference.names v) v
        match inner.outcome with
        | .error c => ⟨inner.replacements, .error c⟩
        | .ok r =>
          let rest := expand stored chain names (Reference.replace name r t)
          ⟨inner.replacements ++ (name, r) :: rest.replacements, rest.outcome⟩
termination_by names _ => ((pending stored chain).length, names.length)
decreasing_by
  · exact Prod.Lex.right _ (by simp)
  · exact Prod.Lex.left _ _ (length_pending_lt ‹_› ‹_›)
  · exact Prod.Lex.right _ (by simp)

end Resolution

/-- Resolves the references of `t`, which is the text of the name `origin` if one is given. -/
def resolve (stored : Index Text) (origin : Option Text) (t : Text) : Resolution :=
  Resolution.expand stored (origin.toList.filter (!·.isEmpty)) (Reference.names t) t

end PropertyFile
