import Pseudocode.Expr.Eval
import Pseudocode.Proofs.Expr.Grammar
import Pseudocode.Proofs.Fault

namespace Pseudocode.Expr

/-- The rules for the value of a tree. There is none for a tree with a gap. -/
inductive HasValue (store : Store) : Tree → Value → Prop where
  | number (text : String) :
      HasValue store (.number text) (.number (Decimal.literalValue text.toList 0))
  | quoted (body : String) : HasValue store (.quoted body) (.text body)
  | known {name : String} {value : Value} (found : store.lookup name = some value) :
      HasValue store (.name name) value
  | affirmed {name : String} (unknown : store.lookup name = none)
      (spelled : Text.upperString name = "TRUE") : HasValue store (.name name) (.boolean true)
  | denied {name : String} (unknown : store.lookup name = none)
      (spelled : Text.upperString name = "FALSE") : HasValue store (.name name) (.boolean false)
  | word {name : String} (unknown : store.lookup name = none)
      (notTrue : Text.upperString name ≠ "TRUE") (notFalse : Text.upperString name ≠ "FALSE") :
      HasValue store (.name name) (.text name)
  | negate {operand : Tree} {x : Float} (h : HasValue store operand (.number x)) :
      HasValue store (.negate operand) (.number (-x))
  | positive {operand : Tree} {x : Float} (h : HasValue store operand (.number x)) :
      HasValue store (.positive operand) (.number x)
  | group {inner : Tree} {value : Value} (h : HasValue store inner value) :
      HasValue store (.group inner) value
  | joined {left right : Tree} {l r : Value} (hleft : HasValue store left l)
      (hright : HasValue store right r) (hasText : l.kind = .text ∨ r.kind = .text) :
      HasValue store (.arith .add left right) (.text (l.render ++ r.render))
  | calculated {left right : Tree} {x y : Float} (op : Arith)
      (hleft : HasValue store left (.number x)) (hright : HasValue store right (.number y))
      (divisor : op = .div → (y == 0.0) = false) (finite : (op.apply x y).isFinite = true) :
      HasValue store (.arith op left right) (.number (op.apply x y))
  | same {left right : Tree} {l r : Value} (op : Compare) (equality : op = .equal ∨ op = .notEqual)
      (hleft : HasValue store left l) (hright : HasValue store right r) :
      HasValue store (.compare op left right) (.boolean (op.holds l r))
  | ordered {left right : Tree} {l r : Value} (op : Compare) (hleft : HasValue store left l)
      (hright : HasValue store right r) (sameKind : l.kind = r.kind) :
      HasValue store (.compare op left right) (.boolean (op.holds l r))

section HasValue

variable {store : Store} {tree : Tree} {value : Value}

theorem HasValue.proper (h : HasValue store tree value) : tree.Proper := by
  induction h with
  | negate _ ih | positive _ ih | group _ ih => exact ih
  | joined _ _ _ ihLeft ihRight => exact ⟨ihLeft, ihRight⟩
  | calculated _ _ _ _ _ ihLeft ihRight => exact ⟨ihLeft, ihRight⟩
  | same _ _ _ _ ihLeft ihRight => exact ⟨ihLeft, ihRight⟩
  | ordered _ _ _ _ ihLeft ihRight => exact ⟨ihLeft, ihRight⟩
  | _ => trivial

theorem hasValue_name {name : String} : HasValue store (.name name) (resolve store name) := by
  unfold resolve
  split
  · next found => exact .known found
  · next unknown =>
      split
      · next spelled => exact .affirmed unknown spelled
      · next spelled => exact .denied unknown spelled
      · next notTrue notFalse => exact .word unknown notTrue notFalse

theorem hasValue_name_iff {name : String} :
    HasValue store (.name name) value ↔ resolve store name = value := by
  constructor
  · intro h
    unfold resolve
    cases h with
    | known found => rw [found]
    | affirmed unknown spelled => simp only [unknown, spelled]
    | denied unknown spelled => simp only [unknown, spelled]
    | word unknown notTrue notFalse =>
        rw [unknown]
        dsimp only
        split
        · next spelled => exact absurd spelled notTrue
        · next spelled => exact absurd spelled notFalse
        · rfl
  · rintro rfl
    exact hasValue_name

theorem calculate_eq_ok_iff {op : Arith} {l r : Value} :
    calculate op l r = .ok value ↔
      ∃ x y, l = .number x ∧ r = .number y ∧ (op = .div → (y == 0.0) = false) ∧
        (op.apply x y).isFinite = true ∧ value = .number (op.apply x y) := by
  constructor
  · intro h
    unfold calculate at h
    split at h
    · next x y =>
        split at h
        · cases h
        · next divisor =>
            dsimp only at h
            split at h
            · next finite =>
                cases h
                refine ⟨x, y, rfl, rfl, ?_, finite, rfl⟩
                intro hdiv
                simpa [hdiv] using divisor
            · cases h
    · cases h
  · rintro ⟨x, y, rfl, rfl, divisor, finite, rfl⟩
    have hdivisor : ¬ (op = .div ∧ (y == 0.0) = true) := by
      rintro ⟨hdiv, hzero⟩
      rw [divisor hdiv] at hzero
      cases hzero
    simp only [calculate, if_neg hdivisor, if_pos finite]

theorem combine_eq_ok_iff {op : Arith} {l r : Value} :
    combine op l r = .ok value ↔
      (op = .add ∧ (l.kind = .text ∨ r.kind = .text) ∧ value = .text (l.render ++ r.render)) ∨
      ∃ x y, l = .number x ∧ r = .number y ∧ (op = .div → (y == 0.0) = false) ∧
        (op.apply x y).isFinite = true ∧ value = .number (op.apply x y) := by
  unfold combine
  split
  · next hjoin =>
      constructor
      · intro h
        cases h
        exact .inl ⟨hjoin.1, hjoin.2, rfl⟩
      · rintro (⟨-, -, rfl⟩ | ⟨x, y, rfl, rfl, -⟩)
        · rfl
        · simp [Value.kind] at hjoin
  · next hjoin =>
      rw [calculate_eq_ok_iff]
      constructor
      · exact .inr
      · rintro (⟨hadd, htext, -⟩ | h)
        · exact absurd ⟨hadd, htext⟩ hjoin
        · exact h

theorem relate_eq_ok_iff {op : Compare} {l r : Value} :
    relate op l r = .ok value ↔
      (op = .equal ∨ op = .notEqual ∨ l.kind = r.kind) ∧ value = .boolean (op.holds l r) := by
  unfold relate
  split
  · next h => simp [h, eq_comm]
  · next h => simp [h]

/-- The value that is computed is the one of the rules. -/
theorem eval_eq_ok_iff : tree.eval store = .ok value ↔ HasValue store tree value := by
  induction tree generalizing value with
  | number text =>
      constructor
      · intro h
        cases h
        exact .number text
      · intro h
        cases h
        rfl
  | quoted body =>
      constructor
      · intro h
        cases h
        exact .quoted body
      · intro h
        cases h
        rfl
  | name name =>
      rw [hasValue_name_iff, Tree.eval, Except.ok.injEq]
  | negate operand ih =>
      rw [Tree.eval, bind_eq_ok_iff]
      constructor
      · rintro ⟨v, hv, h⟩
        split at h
        · cases h
          exact .negate (ih.mp hv)
        · cases h
      · intro h
        cases h with
        | negate h => exact ⟨_, ih.mpr h, rfl⟩
  | positive operand ih =>
      rw [Tree.eval, bind_eq_ok_iff]
      constructor
      · rintro ⟨v, hv, h⟩
        split at h
        · cases h
          exact .positive (ih.mp hv)
        · cases h
      · intro h
        cases h with
        | positive h => exact ⟨_, ih.mpr h, rfl⟩
  | group inner ih =>
      rw [Tree.eval, ih]
      constructor
      · exact .group
      · intro h
        cases h with
        | group h => exact h
  | arith op left right ihLeft ihRight =>
      simp only [Tree.eval, bind_eq_ok_iff, combine_eq_ok_iff, ihLeft, ihRight]
      constructor
      · rintro ⟨l, hl, r, hr, ⟨rfl, htext, rfl⟩ | ⟨x, y, rfl, rfl, divisor, finite, rfl⟩⟩
        · exact .joined hl hr htext
        · exact .calculated op hl hr divisor finite
      · intro h
        cases h with
        | joined hl hr htext => exact ⟨_, hl, _, hr, .inl ⟨rfl, htext, rfl⟩⟩
        | calculated _ hl hr divisor finite =>
            exact ⟨_, hl, _, hr, .inr ⟨_, _, rfl, rfl, divisor, finite, rfl⟩⟩
  | compare op left right ihLeft ihRight =>
      simp only [Tree.eval, bind_eq_ok_iff, relate_eq_ok_iff, ihLeft, ihRight]
      constructor
      · rintro ⟨l, hl, r, hr, hkinds, rfl⟩
        rcases hkinds with hequal | hnotEqual | hkind
        · exact .same op (.inl hequal) hl hr
        · exact .same op (.inr hnotEqual) hl hr
        · exact .ordered op hl hr hkind
      · intro h
        cases h with
        | same _ equality hl hr =>
            rcases equality with hequal | hnotEqual
            · exact ⟨_, hl, _, hr, .inl hequal, rfl⟩
            · exact ⟨_, hl, _, hr, .inr (.inl hnotEqual), rfl⟩
        | ordered _ hl hr hkind => exact ⟨_, hl, _, hr, .inr (.inr hkind), rfl⟩
  | missing problem =>
      constructor
      · intro h
        cases h
      · intro h
        cases h
  | brokenOff before problem ih =>
      rw [Tree.eval, bind_eq_ok_iff]
      constructor
      · rintro ⟨v, -, h⟩
        cases h
      · intro h
        cases h

end HasValue

theorem evaluate_eq_ok_iff {store : Store} {expression : String} {value : Value} :
    evaluate store expression = .ok value ↔
      ∃ tokens, tokenize expression = .ok tokens ∧
        HasValue store (Tree.ofTokens tokens) value := by
  have hvalue : evaluate store expression = .ok value ↔
      Expr.value store expression = .ok value := by
    unfold evaluate
    split
    · next v hv => rw [hv, Except.ok.injEq, Except.ok.injEq]
    · next problem hproblem => simp [hproblem]
  rw [hvalue, Expr.value, bind_eq_ok_iff]
  simp only [eval_eq_ok_iff]

/-- An expression text has a value just if it can be cut into tokens and these derive a tree with
at most a hundred signs and parentheses inside each other that has the value by the rules. The tree
is the only one. In every other case the expression is invalid, with no line given. -/
theorem evaluate_iff_grammar (store : Store) (expression : String) :
    (∀ value, evaluate store expression = .ok value ↔
      ∃ tokens tree, tokenize expression = .ok tokens ∧ Derives .comparison tokens tree ∧
        tree.nesting ≤ 100 ∧ HasValue store tree value) ∧
    (∀ tokens tree tree', Derives .comparison tokens tree → Derives .comparison tokens tree' →
      tree = tree') ∧
    ((¬ ∃ tokens tree value, tokenize expression = .ok tokens ∧ Derives .comparison tokens tree ∧
        tree.nesting ≤ 100 ∧ HasValue store tree value) →
      ∃ fault, evaluate store expression = .error fault ∧ fault.kind = .invalidExpression ∧
        fault.line = none) := by
  have hvalue : ∀ value, evaluate store expression = .ok value ↔
      ∃ tokens tree, tokenize expression = .ok tokens ∧ Derives .comparison tokens tree ∧
        tree.nesting ≤ 100 ∧ HasValue store tree value := by
    intro value
    rw [evaluate_eq_ok_iff]
    constructor
    · rintro ⟨tokens, htokens, hhas⟩
      obtain ⟨hderives, hnesting⟩ := ofTokens_proper_iff.mp ⟨rfl, hhas.proper⟩
      exact ⟨tokens, _, htokens, hderives, hnesting, hhas⟩
    · rintro ⟨tokens, tree, htokens, hderives, hnesting, hhas⟩
      obtain ⟨rfl, -⟩ := ofTokens_proper_iff.mpr ⟨hderives, hnesting⟩
      exact ⟨tokens, htokens, hhas⟩
  refine ⟨hvalue, fun _ _ _ => Derives.unique, ?_⟩
  intro hnone
  cases heval : evaluate store expression with
  | ok value =>
      obtain ⟨tokens, tree, h⟩ := (hvalue value).mp heval
      exact absurd ⟨tokens, tree, value, h⟩ hnone
  | error fault => exact ⟨fault, rfl, Fault.kind_of_evaluate heval⟩

theorem evaluate_iff_grammar_ranks :
    ∃ tokens tree, tokenize "-(1 + 2) * 3 < 0" = .ok tokens ∧ Derives .comparison tokens tree ∧
      tree.nesting ≤ 100 ∧ HasValue {} tree (.boolean true) :=
  ((evaluate_iff_grammar {} "-(1 + 2) * 3 < 0").1 (.boolean true)).mp (by rfl)

end Pseudocode.Expr
