import Mathlib.Data.List.Basic

namespace Pseudocode

section Entries

variable {κ α : Type} [BEq κ] [LawfulBEq κ] {entries : List (κ × α)} {key : κ}

theorem mem_of_lookup {value : α} (h : entries.lookup key = some value) :
    (key, value) ∈ entries := by
  obtain ⟨before, after, rfl, -⟩ := List.lookup_eq_some_iff.mp h
  exact List.mem_append_right before List.mem_cons_self

theorem lookup_eq_none_iff : entries.lookup key = none ↔ key ∉ entries.map (·.1) := by
  simp only [List.lookup_eq_none_iff, List.mem_map, not_exists, not_and, bne_iff_ne]
  exact ⟨fun h entry hentry heq => h entry hentry heq.symm,
    fun h entry hentry heq => h entry hentry heq.symm⟩

theorem lookup_map_replace (value : α) (h : (entries.lookup key).isSome = true) :
    (entries.map fun entry => if entry.1 == key then (key, value) else entry).lookup key =
      some value := by
  induction entries with
  | nil => cases h
  | cons entry entries ih =>
      rw [List.map_cons]
      by_cases same : entry.1 = key
      · rw [if_pos (beq_iff_eq.mpr same), List.lookup_cons_self]
      · have differs : (key == entry.1) = false := beq_eq_false_iff_ne.mpr (Ne.symm same)
        rw [List.lookup_cons, differs] at h
        rw [if_neg (by simpa using same), List.lookup_cons, differs]
        exact ih h

end Entries

theorem bind_eq_ok_iff {ε α β : Type} {x : Except ε α} {f : α → Except ε β} {b : β} :
    (x >>= f) = .ok b ↔ ∃ a, x = .ok a ∧ f a = .ok b := by
  cases x with
  | error e =>
      constructor
      · intro h
        cases h
      · rintro ⟨a, h, -⟩
        cases h
  | ok a =>
      constructor
      · intro h
        exact ⟨a, rfl, h⟩
      · rintro ⟨a', h, h'⟩
        cases h
        exact h'

theorem bind_eq_error_iff {ε α β : Type} {x : Except ε α} {f : α → Except ε β} {e : ε} :
    (x >>= f) = .error e ↔ x = .error e ∨ ∃ a, x = .ok a ∧ f a = .error e := by
  cases x with
  | error e' =>
      constructor
      · intro h
        cases h
        exact .inl rfl
      · rintro (h | ⟨a, h, -⟩)
        · cases h
          rfl
        · cases h
  | ok a =>
      constructor
      · intro h
        exact .inr ⟨a, rfl, h⟩
      · rintro (h | ⟨a', h, h'⟩)
        · cases h
        · cases h
          exact h'

end Pseudocode
