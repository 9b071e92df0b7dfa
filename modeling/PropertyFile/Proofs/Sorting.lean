import Mathlib.Data.List.Sort
import Mathlib.Tactic
import PropertyFile.Text

/-! Sorting by the order of code points is the insertion sort of the library. -/

namespace PropertyFile.Text

lemma codes_injective : Function.Injective codes :=
  List.map_injective_iff.mpr fun _ _ => CodePoint.toNat_injective

section Insertion

variable {α : Type} (key : α → Text)

lemma insertBy_eq (a : α) (l : List α) :
    insertBy key a l = l.orderedInsert (fun a b => codes (key a) ≤ codes (key b)) a := by
  induction l with
  | nil => rfl
  | cons b l ih =>
    rw [insertBy, List.orderedInsert_cons, ih]
    by_cases h : codes (key b) < codes (key a)
    · rw [if_pos h, if_neg (not_le.mpr h)]
    · rw [if_neg h, if_pos (not_lt.mp h)]

lemma sortBy_eq (l : List α) :
    sortBy key l = l.insertionSort fun a b => codes (key a) ≤ codes (key b) := by
  induction l with
  | nil => rfl
  | cons a l ih => rw [List.insertionSort_cons, ← ih, ← insertBy_eq]; rfl

theorem sortBy_perm (l : List α) : (sortBy key l).Perm l := by
  rw [sortBy_eq]
  exact List.perm_insertionSort _ l

theorem pairwise_sortBy (l : List α) :
    (sortBy key l).Pairwise fun a b => codes (key a) ≤ codes (key b) := by
  have : Std.Total fun a b : α => codes (key a) ≤ codes (key b) := ⟨fun a b => le_total _ _⟩
  have : IsTrans α fun a b => codes (key a) ≤ codes (key b) := ⟨fun _ _ _ => le_trans⟩
  rw [sortBy_eq]
  exact List.pairwise_insertionSort _ l

variable {key} {l m : List α}

theorem eq_sortBy (hkey : ∀ a ∈ m, ∀ b ∈ m, key a = key b → a = b) (hp : l.Perm m)
    (h : l.Pairwise fun a b => codes (key a) ≤ codes (key b)) : l = sortBy key m := by
  refine List.Perm.eq_of_pairwise ?_ h (pairwise_sortBy key m) (hp.trans (sortBy_perm key m).symm)
  intro a b ha hb hab hba
  have hb' : b ∈ m := (sortBy_perm key m).mem_iff.mp hb
  exact hkey a (hp.subset ha) b hb' (codes_injective (le_antisymm hab hba))

end Insertion

variable {t : Text} {ts : List Text}

theorem sorted_perm (ts : List Text) : (sorted ts).Perm ts := sortBy_perm id ts

theorem pairwise_sorted (ts : List Text) :
    (sorted ts).Pairwise fun s t => codes s ≤ codes t := pairwise_sortBy id ts

theorem eq_sorted {us : List Text} (hp : ts.Perm us)
    (h : ts.Pairwise fun s t => codes s ≤ codes t) : ts = sorted us :=
  eq_sortBy (fun _ _ _ _ hst => hst) hp h

lemma mem_sorted : t ∈ sorted ts ↔ t ∈ ts := (sorted_perm ts).mem_iff

end PropertyFile.Text
