import PropertyFile.Text

/-! Values under names, in the order in which the names first came. -/

namespace PropertyFile

abbrev Index (α : Type) := List (Text × α)

namespace Index

variable {α : Type}

def find? : Index α → Text → Option α
  | [], _ => none
  | (n, a) :: m, name => if n = name then some a else find? m name

def put : Index α → Text → α → Index α
  | [], name, a => [(name, a)]
  | (n, b) :: m, name, a => if n = name then (n, a) :: m else (n, b) :: put m name a

def names (m : Index α) : List Text := m.map Prod.fst

def contains (m : Index α) (name : Text) : Bool := (find? m name).isSome

theorem find?_put (m : Index α) (name n : Text) (a : α) :
    find? (put m name a) n = if name = n then some a else find? m n := by
  induction m with
  | nil => simp [put, find?]
  | cons e m ih =>
    simp only [put]
    split
    · rename_i h; subst h; simp only [find?]; split <;> simp_all
    · simp only [find?, ih]
      split <;> split <;> simp_all

theorem find?_append (m k : Index α) (n : Text) :
    find? (m ++ k) n = (find? m n).or (find? k n) := by
  induction m with
  | nil => rfl
  | cons e m ih =>
    simp only [List.cons_append, find?, ih]
    split <;> rfl

theorem find?_filter (p : Text → Bool) (m : Index α) (n : Text) :
    find? (m.filter fun e => p e.1) n = if p n then find? m n else none := by
  induction m with
  | nil => simp [find?]
  | cons e m ih =>
    obtain ⟨k, a⟩ := e
    rw [List.filter_cons]
    by_cases h : k = n
    · subst h
      cases hp : p k with
      | true => simp [find?]
      | false => simpa [hp] using ih
    · cases hp : p k with
      | true => simpa [find?, h] using ih
      | false => simpa [find?, h] using ih

theorem mem_names {m : Index α} {name : Text} : name ∈ names m ↔ (find? m name).isSome := by
  induction m with
  | nil => simp [names, find?]
  | cons e m ih =>
    obtain ⟨n, a⟩ := e
    by_cases h : n = name
    · simp [names, find?, h]
    · have : name ≠ n := fun e => h e.symm
      simpa [names, find?, h, this] using ih

theorem names_put (m : Index α) (name : Text) (a : α) :
    names (put m name a) = if contains m name then names m else names m ++ [name] := by
  induction m with
  | nil => simp [put, names, contains, find?]
  | cons e m ih =>
    obtain ⟨n, b⟩ := e
    by_cases h : n = name
    · simp [put, names, contains, find?, h]
    · simp only [put, if_neg h, contains, find?, names, List.map_cons] at ih ⊢
      by_cases hc : (find? m name).isSome <;> simp [ih, hc]

theorem nodup_names_put {m : Index α} (h : (names m).Nodup) (name : Text) (a : α) :
    (names (put m name a)).Nodup := by
  rw [names_put]
  split
  · exact h
  · rename_i hc
    refine List.nodup_append.2 ⟨h, by simp, fun x hx y hy e => hc (mem_names.1 ?_)⟩
    rw [List.mem_singleton] at hy
    rwa [← hy, ← e]

theorem not_mem_front {m m' : Index α} {n : Text} {a : α}
    (h : (names (m ++ (n, a) :: m')).Nodup) : n ∉ names m := by
  rw [names, List.map_append, List.nodup_append] at h
  exact fun hm => h.2.2 n hm n List.mem_cons_self rfl

end Index

end PropertyFile
