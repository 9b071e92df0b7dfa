import Mathlib
import PropertyFile.Proofs.Traversal
import PropertyFile.Registry

/-! Enumerations as schemas, in which a member with the value of an earlier one declares nothing. -/

namespace PropertyFile

variable {a b c : MemberValue} {before after e : Enumeration} {k m : Member}

lemma MemberValue.same_trans (h : a.same b = true) (h' : b.same c = true) : a.same c = true := by
  cases a <;> cases b <;> cases c <;> simp_all [same, mark?, Descriptor.same]

namespace Enumeration

lemma filter_alias (h : k.value.same m.value = true) (before after : Enumeration) :
    (distinct (before ++ m :: after)).filter (fun n => !k.value.same n.value) =
      (distinct (before ++ after)).filter fun n => !k.value.same n.value := by
  induction before with
  | nil =>
    rw [List.nil_append, List.nil_append, distinct, List.filter_cons_of_neg (by simp [h]),
      List.filter_filter]
    refine List.filter_congr fun n _ => ?_
    cases hm : m.value.same n.value with
    | true => simp [MemberValue.same_trans h hm]
    | false => simp
  | cons c before ih =>
    rw [List.cons_append, List.cons_append, distinct, distinct, List.filter_cons, List.filter_cons,
      List.filter_comm, ih, List.filter_comm]

lemma distinct_alias (hk : k ∈ before) (h : k.value.same m.value = true) :
    distinct (before ++ m :: after) = distinct (before ++ after) := by
  induction before with
  | nil => cases hk
  | cons c before ih =>
    rw [List.cons_append, List.cons_append, distinct, distinct]
    rcases List.mem_cons.mp hk with rfl | hk
    · rw [filter_alias h]
    · rw [ih hk]

lemma distinct_of_pairwise (h : e.Pairwise fun m n => m.value.same n.value = false) :
    distinct e = e := by
  induction e with
  | nil => rfl
  | cons m e ih =>
    obtain ⟨hm, he⟩ := List.pairwise_cons.mp h
    rw [distinct, ih he, List.filter_eq_self.mpr]
    intro n hn
    simp [hm n hn]

end Enumeration

namespace Registry

lemma ofEntries_members {ds : List Descriptor} (h : e.mapM Member.descriptor = .ok ds) :
    ofEntries (e.map .member) = ofDescriptors ds := by
  have hmembers : (e.map KeyRef.member).mapM KeyRef.descriptor? = .ok ds := by
    rw [List.mapM_map]
    exact h
  rw [ofEntries, hmembers]
  rfl

lemma ofEntries_descriptors (ds : List Descriptor) :
    ofEntries (ds.map .descriptor) = ofDescriptors ds := by
  have hds : (ds.map KeyRef.descriptor).mapM KeyRef.descriptor? = .ok ds := by
    rw [Traversal.mapM_eq_ok_iff, List.forall₂_map_left_iff]
    exact List.forall₂_same.mpr fun _ _ => rfl
  rw [ofEntries, hds]
  rfl

theorem ofSource_enumeration (e : Enumeration) :
    (∀ before m after, e = before ++ m :: after → (∃ k ∈ before, k.value.same m.value = true) →
      ofSource (.enumeration e) = ofSource (.enumeration (before ++ after))) ∧
    ∀ ds, (e.Pairwise fun m n => m.value.same n.value = false) →
      e.mapM Member.descriptor = .ok ds →
      ofSource (.enumeration e) = ofSource (.entries (ds.map .descriptor)) := by
  constructor
  · rintro before m after rfl ⟨k, hk, hsame⟩
    rw [ofSource, ofSource, Enumeration.distinct_alias hk hsame]
  · intro ds hpairwise hds
    rw [ofSource, ofSource, Enumeration.distinct_of_pairwise hpairwise, ofEntries_members hds,
      ofEntries_descriptors]

theorem ofSource_aliased :
    ¬ ∀ (entries : List (Text × MemberValue)) (e : Enumeration) (ds : List Descriptor),
      Enumeration.make false entries = .ok e → e.mapM Member.descriptor = .ok ds →
      ofSource (.enumeration e) = ofSource (.entries (ds.map .descriptor)) := by
  intro h
  let optional : Descriptor := ⟨"K1", false, [], rfl⟩
  let mandatory : Descriptor := ⟨"K1", true, [], rfl⟩
  let entries : List (Text × MemberValue) :=
    [("AB", .descriptor optional), ("CD", .descriptor mandatory)]
  let e : Enumeration :=
    [⟨"AB", .descriptor optional, false⟩, ⟨"CD", .descriptor mandatory, false⟩]
  have hmake : Enumeration.make false entries = .ok e := by rfl
  have hfirst : ofSource (.enumeration e) = .ok ⟨[optional], by simp, by simp⟩ := by rfl
  have hlast : ofSource (.entries ([optional, mandatory].map .descriptor)) =
      .ok ⟨[mandatory], by simp, by simp⟩ := by rfl
  have heq := h entries e [optional, mandatory] hmake rfl
  rw [hfirst, hlast] at heq
  have hflags := congrArg Registry.mandatory (Except.ok.inj heq)
  exact absurd hflags (by decide)

end Registry

end PropertyFile
