/-!
# Words about a history

A history is a list of events, the latest first. What is said about a state is said about its history:
one thing has happened and another has not happened since (`Since`); what events bring was not brought
twice (`NoRepeat`).
-/

namespace CommandConsole

/-! ## 1. What has happened since -/

/-- `P` has happened, and `Q` has not happened since. -/
def Since {α : Type} (P Q : α → Prop) : List α → Prop
  | [] => False
  | e :: past => P e ∨ (¬ Q e ∧ Since P Q past)

section

variable {α : Type} {P Q : α → Prop} {e : α} {past : List α}

theorem since_cons_of_neither (hP : ¬ P e) (hQ : ¬ Q e) :
    Since P Q (e :: past) ↔ Since P Q past := by
  constructor
  · intro hcase
    rcases hcase with h | h
    · exact absurd h hP
    · exact h.2
  · exact fun h => Or.inr ⟨hQ, h⟩

theorem Since.exists_mem (h : Since P Q past) : ∃ e ∈ past, P e := by
  induction past with
  | nil => exact h.elim
  | cons e past ih =>
    rcases h with h | ⟨-, h⟩
    · exact ⟨e, List.mem_cons_self, h⟩
    · obtain ⟨e', he', h'⟩ := ih h
      exact ⟨e', List.mem_cons_of_mem _ he', h'⟩

/-- Of the events of a kind there is a last one. -/
theorem since_of_exists {β : Type} (f : α → β) (h : ∃ e ∈ past, P e) :
    ∃ x, Since (fun e => P e ∧ f e = x) P past := by
  induction past with
  | nil =>
    obtain ⟨e, he, -⟩ := h
    cases he
  | cons e past ih =>
    by_cases he : P e
    · exact ⟨f e, Or.inl ⟨he, rfl⟩⟩
    · obtain ⟨e', hmem, he'⟩ := h
      rcases List.mem_cons.mp hmem with rfl | hmem
      · exact absurd he' he
      · obtain ⟨x, hx⟩ := ih ⟨e', hmem, he'⟩
        exact ⟨x, Or.inr ⟨he, hx⟩⟩

/-- What the last event of a kind was like is settled. -/
theorem Since.unique {β : Type} {f : α → β} {x y : β} (hx : Since (fun e => P e ∧ f e = x) P past)
    (hy : Since (fun e => P e ∧ f e = y) P past) : x = y := by
  induction past with
  | nil => exact hx.elim
  | cons e past ih =>
    rcases hx with ⟨hP, rfl⟩ | ⟨hP, hx⟩
    · rcases hy with ⟨-, hy⟩ | ⟨hP', -⟩
      · exact hy
      · exact absurd hP hP'
    · rcases hy with ⟨hP', -⟩ | ⟨-, hy⟩
      · exact absurd hP' hP
      · exact ih hx hy

end

/-! ## 2. What is not brought twice -/

/-- What the events of a history have brought is never the same twice. -/
def NoRepeat {α β : Type} (f : α → Option β) (past : List α) : Prop := (past.filterMap f).Nodup

instance {α β : Type} [DecidableEq β] (f : α → Option β) (past : List α) :
    Decidable (NoRepeat f past) :=
  inferInstanceAs (Decidable (past.filterMap f).Nodup)

namespace NoRepeat

variable {α β : Type} {f : α → Option β} {e : α} {past : List α} {x : β}

theorem tail (h : NoRepeat f (e :: past)) : NoRepeat f past := by
  unfold NoRepeat at h ⊢
  rw [List.filterMap_cons] at h
  split at h
  · exact h
  · exact (List.nodup_cons.mp h).2

/-- What comes now has not come before. -/
theorem not_before (h : NoRepeat f (e :: past)) (he : f e = some x) : ∀ e' ∈ past, f e' ≠ some x := by
  intro e' hmem he'
  unfold NoRepeat at h
  rw [List.filterMap_cons, he] at h
  exact (List.nodup_cons.mp h).1 (List.mem_filterMap.mpr ⟨e', hmem, he'⟩)

/-- What two events have brought shows that they are one. -/
theorem unique (h : NoRepeat f past) {e₁ e₂ : α} (h₁ : e₁ ∈ past) (h₂ : e₂ ∈ past)
    (hx₁ : f e₁ = some x) (hx₂ : f e₂ = some x) : e₁ = e₂ := by
  induction past with
  | nil => cases h₁
  | cons e past ih =>
    rcases List.mem_cons.mp h₁ with he₁ | hp₁
    · rcases List.mem_cons.mp h₂ with he₂ | hp₂
      · rw [he₁, he₂]
      · exact absurd hx₂ (h.not_before (he₁ ▸ hx₁) e₂ hp₂)
    · rcases List.mem_cons.mp h₂ with he₂ | hp₂
      · exact absurd hx₁ (h.not_before (he₂ ▸ hx₂) e₁ hp₁)
      · exact ih h.tail hp₁ hp₂

end NoRepeat

end CommandConsole
