import Pseudocode.Machine.Step
import Pseudocode.Proofs.Store

namespace Pseudocode

namespace Fault

/-- A fault in the data of a statement: an expression, a condition, a name or a type. Such a fault
has no line yet. -/
structure OfData (fault : Fault) : Prop where
  kind : fault.kind ∈ [.invalidIdentifier, .typeMismatch, .invalidExpression, .unknownOperator]
  line : fault.line = none

@[simp] theorem atLine_kind (fault : Fault) (line : Int) :
    (fault.atLine line).kind = fault.kind := by
  unfold atLine
  split <;> rfl

theorem kind_of_evaluate {store : Store} {expression : String} {fault : Fault}
    (h : Expr.evaluate store expression = .error fault) :
    fault.kind = .invalidExpression ∧ fault.line = none := by
  unfold Expr.evaluate at h
  split at h
  · cases h
  · cases h
    exact ⟨rfl, rfl⟩

theorem ofData_of_evaluate {store : Store} {expression : String} {fault : Fault}
    (h : Expr.evaluate store expression = .error fault) : fault.OfData := by
  obtain ⟨hkind, hline⟩ := kind_of_evaluate h
  exact ⟨by simp [hkind], hline⟩

theorem ofData_of_holds {store : Store} {condition : Condition} {fault : Fault}
    (h : condition.holds store = .error fault) : fault.OfData := by
  rcases bind_eq_error_iff.mp h with h | ⟨relation, -, h⟩
  · unfold Condition.operator at h
    split at h
    · cases h
    · cases h
      exact ⟨by simp, rfl⟩
  · dsimp only at h
    split at h
    · cases h
    · cases h
    · split at h
      · cases h
      · cases h
        exact ⟨by simp, rfl⟩

theorem ofData_of_condition {store : Store} {condition : String} {fault : Fault}
    (h : Condition.evaluate store condition = .error fault) : fault.OfData := by
  rcases bind_eq_error_iff.mp h with h | ⟨condition, -, h⟩
  · unfold Condition.read at h
    dsimp only at h
    split at h
    · cases h
    · cases h
      exact ⟨by simp, rfl⟩
  · exact ofData_of_holds h

theorem ofData_of_assign {store store' : Store} {name : String} {value : Value} {fault : Fault}
    (h : (Store.assign name value).run store = .error fault store') : fault.OfData := by
  have hassigns := store.assigns_run name value
  rw [h] at hassigns
  cases hassigns with
  | invalid => exact ⟨by simp, rfl⟩
  | mismatched => exact ⟨by simp, rfl⟩

theorem ofData_of_bound {store : Store} {expression : String} {fault : Fault}
    (h : Machine.evaluateBound store expression = .error fault) : fault.OfData := by
  rcases bind_eq_error_iff.mp h with h | ⟨value, -, h⟩
  · exact ofData_of_evaluate h
  · split at h
    · cases h
    · cases h
      exact ⟨by simp, rfl⟩

end Fault

end Pseudocode
