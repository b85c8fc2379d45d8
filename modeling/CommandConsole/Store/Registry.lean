/-!
# Registries

A registry files values under names. It is a list of pairs in which no name occurs twice. What each
operation does is said through the view `get?`: filing a value shows under its own name and nowhere
else (`get?_insert`), removing hides one name (`get?_erase`), and sweeping keeps exactly the values
that pass the test (`get?_retain`).
-/

namespace CommandConsole

/-- Values filed under names. -/
structure Registry (α : Type) where
  entries : List (String × α)
  /-- No name occurs twice. -/
  nodup : (entries.map Prod.fst).Nodup

namespace Registry

variable {α : Type}

/-! ## 1. Operations -/

/-- Nothing filed. -/
def empty : Registry α := { entries := [], nodup := List.nodup_nil }

/-- The value under a name. -/
def get? (r : Registry α) (name : String) : Option α := r.entries.lookup name

/-- How many values are filed. -/
def size (r : Registry α) : Nat := r.entries.length

/-- The names in use. -/
def names (r : Registry α) : List String := r.entries.map Prod.fst

theorem nodup_filter (es : List (String × α)) (p : String × α → Bool)
    (h : (es.map Prod.fst).Nodup) : ((es.filter p).map Prod.fst).Nodup :=
  List.Pairwise.sublist (List.Sublist.map Prod.fst List.filter_sublist) h

/-- Keeps the values that pass a test. -/
def retain (r : Registry α) (keep : α → Bool) : Registry α :=
  { entries := r.entries.filter fun e => keep e.2
    nodup := nodup_filter _ _ r.nodup }

/-- Removes what is filed under a name. -/
def erase (r : Registry α) (name : String) : Registry α :=
  { entries := r.entries.filter fun e => e.1 != name
    nodup := nodup_filter _ _ r.nodup }

theorem not_mem_names_erase (r : Registry α) (name : String) : name ∉ (r.erase name).names := by
  simp [names, erase]

/-- Files a value under a name, in place of what was there. -/
def insert (r : Registry α) (name : String) (a : α) : Registry α :=
  { entries := (name, a) :: (r.erase name).entries
    nodup := by
      rw [List.map_cons, List.nodup_cons]
      exact ⟨r.not_mem_names_erase name, (r.erase name).nodup⟩ }

/-! ## 2. What the operations show -/

@[simp] theorem get?_empty (name : String) : (empty : Registry α).get? name = none := rfl

theorem lookup_cons_of_ne {name k : String} (h : name ≠ k) (a : α) (es : List (String × α)) :
    ((k, a) :: es).lookup name = es.lookup name := by
  simp [List.lookup_cons, beq_eq_false_iff_ne.mpr h]

theorem lookup_eq_none_of_not_mem (es : List (String × α)) (name : String)
    (h : name ∉ es.map Prod.fst) : es.lookup name = none := by
  induction es with
  | nil => rfl
  | cons e es ih =>
    simp only [List.map_cons, List.mem_cons, not_or] at h
    rw [lookup_cons_of_ne h.1, ih h.2]

theorem lookup_filter_fst (es : List (String × α)) (n name : String) :
    (es.filter fun e => e.1 != n).lookup name = if name = n then none else es.lookup name := by
  induction es with
  | nil => simp
  | cons e es ih =>
    obtain ⟨k, a⟩ := e
    by_cases hk : k = n
    · subst hk
      rw [List.filter_cons_of_neg (by simp), ih]
      by_cases hn : name = k
      · simp [hn]
      · simp [hn, lookup_cons_of_ne hn]
    · rw [List.filter_cons_of_pos (by simpa using hk)]
      by_cases hn : name = k
      · subst hn
        simp [hk]
      · rw [lookup_cons_of_ne hn, lookup_cons_of_ne hn, ih]

theorem get?_erase (r : Registry α) (n name : String) :
    (r.erase n).get? name = if name = n then none else r.get? name :=
  lookup_filter_fst r.entries n name

theorem get?_insert (r : Registry α) (n name : String) (a : α) :
    (r.insert n a).get? name = if name = n then some a else r.get? name := by
  by_cases h : name = n
  · simp [insert, get?, h]
  · have he := r.get?_erase n name
    rw [if_neg h] at he ⊢
    rw [← he]
    exact lookup_cons_of_ne h a _

theorem lookup_filter_snd (es : List (String × α)) (keep : α → Bool) (name : String)
    (h : (es.map Prod.fst).Nodup) :
    (es.filter fun e => keep e.2).lookup name = (es.lookup name).filter keep := by
  induction es with
  | nil => rfl
  | cons e es ih =>
    obtain ⟨k, a⟩ := e
    rw [List.map_cons, List.nodup_cons] at h
    have ih := ih h.2
    by_cases hn : name = k
    · subst hn
      have hes := lookup_eq_none_of_not_mem es name h.1
      rw [hes] at ih
      by_cases ha : keep a = true
      · rw [List.filter_cons_of_pos (by simpa using ha)]
        simp [Option.filter, ha]
      · rw [List.filter_cons_of_neg (by simpa using ha), ih]
        simp [Option.filter, ha]
    · rw [lookup_cons_of_ne hn, ← ih]
      by_cases ha : keep a = true
      · rw [List.filter_cons_of_pos (by simpa using ha), lookup_cons_of_ne hn]
      · rw [List.filter_cons_of_neg (by simpa using ha)]

theorem get?_retain (r : Registry α) (keep : α → Bool) (name : String) :
    (r.retain keep).get? name = (r.get? name).filter keep :=
  lookup_filter_snd r.entries keep name r.nodup

end Registry

end CommandConsole
