import Pseudocode.Condition
import Pseudocode.Proofs.Expr.Tokens
import Pseudocode.Proofs.Expr.Value
import Pseudocode.Proofs.Store

/-!
Conditions and expressions on the texts that are both: two operands with an operator between them.
A condition is cut at its blanks and its operands are told apart by their shape, an expression is
cut into tokens and read by a grammar. Main statement: on their common texts the two give the same
answer, or both fail.
-/

namespace Pseudocode

open Text

/-- The operands that conditions and expressions share. -/
inductive Operand (store : Store) : List Char → Prop where
  | number {cs : List Char} (h : Decimal.Literal cs) : Operand store cs
  | signed {sign : Char} {cs : List Char} (hsign : sign = '-' ∨ sign = '+')
      (h : Decimal.Literal cs) : Operand store (sign :: cs)
  | quoted {mark : Char} {body : List Char} (hmark : Expr.isQuote mark = true)
      (solid : ∀ c ∈ body, isBlank c = false) (hbody : mark ∉ body) :
      Operand store (mark :: (body ++ [mark]))
  | name {cs : List Char} (hname : Store.isIdentifier cs = true)
      (declared : (store.lookup (String.ofList cs)).isSome = true) : Operand store cs

namespace Operand

open Pseudocode.Expr

variable {store : Store} {cs rest : List Char} {c : Char}

theorem inName_of_isLetterOrDigit (h : Store.isLetterOrDigit c = true) : inName c = true :=
  Store.of_isLetterOrDigit (p := fun c => inName c = true) (by decide +kernel) h

theorem startsName_of_isLetter (h : Store.isLetter c = true) : startsName c = true := by
  have hdigit : Store.isLetterOrDigit c = true := by rw [Store.isLetterOrDigit, h, Bool.true_or]
  exact Store.of_isLetterOrDigit (p := fun c => Store.isLetter c = true → startsName c = true)
    (by decide +kernel) hdigit h

/-- An operand as a word of a condition and as a part of an expression: as the one it has a value,
and as the other it is cut into tokens that derive a tree with this value. -/
structure Read (store : Store) (cs : List Char) (tokens : List Token) (tree : Tree) : Prop where
  word : Word cs
  cuts : ∀ rest more, Apart rest → Cuts rest more → Cuts (cs ++ rest) (tokens ++ more)
  derives : Derives .unary tokens tree
  nesting : tree.nesting ≤ 1
  value : HasValue store tree (Condition.operand store (String.ofList cs))

theorem isNumeric_of_unsigned (hminus : c ≠ '-') (hplus : c ≠ '+') :
    Condition.isNumeric (c :: cs) = Decimal.isLiteral (c :: cs) := by
  unfold Condition.isNumeric
  split <;> simp_all

theorem numericValue_of_unsigned (hminus : c ≠ '-') (hplus : c ≠ '+') :
    Condition.numericValue (c :: cs) = Decimal.literalValue (c :: cs) 0 := by
  unfold Condition.numericValue
  split <;> simp_all

theorem operand_of_literal (h : Decimal.Literal cs) :
    Condition.operand store (String.ofList cs) = .number (Decimal.literalValue cs 0) := by
  obtain ⟨c, cs, rfl⟩ := List.exists_cons_of_ne_nil h.word.ne_nil
  have hin : Decimal.inLiteral c = true := h.inLiteral c List.mem_cons_self
  have hsign : c ≠ '-' ∧ c ≠ '+' := by
    constructor <;> rintro rfl <;> revert hin <;> decide
  rw [Condition.operand, String.toList_ofList, isNumeric_of_unsigned hsign.1 hsign.2, h.isLiteral,
    numericValue_of_unsigned hsign.1 hsign.2, if_pos rfl]

theorem operand_of_no_number (hliteral : Decimal.inLiteral c = false) (hminus : c ≠ '-')
    (hplus : c ≠ '+') :
    Condition.operand store (String.ofList (c :: cs)) =
      match unquote? (String.ofList (c :: cs)) with
      | some body => .text body
      | none => (store.lookup (String.ofList (c :: cs))).getD (.number 0.0) := by
  have hnone : Decimal.isLiteral (c :: cs) = false := by
    rw [Decimal.isLiteral, Decimal.literal?_eq_none hliteral]
  rw [Condition.operand, String.toList_ofList, isNumeric_of_unsigned hminus hplus, hnone]
  rfl

theorem read_literal (h : Decimal.Literal cs) :
    Read store cs [.number (String.ofList cs)] (.number (String.ofList cs)) := by
  obtain ⟨c, cs, rfl⟩ := List.exists_cons_of_ne_nil h.word.ne_nil
  refine ⟨h.word, ?_, .ofAtom (.number _), Nat.zero_le 1, ?_⟩
  · intro rest more hrest hmore
    exact .token (h.word.solid c List.mem_cons_self) (nextToken_literal h hrest) hmore
  · rw [operand_of_literal h]
    have hvalue : HasValue store _ _ := .number (String.ofList (c :: cs))
    rwa [String.toList_ofList] at hvalue

theorem read_signed {sign : Char} (hsign : sign = '-' ∨ sign = '+') (h : Decimal.Literal cs) :
    ∃ tokens tree, Read store (sign :: cs) tokens tree := by
  have hread : Read store cs _ _ := read_literal h
  have hvalue := hread.value
  rw [operand_of_literal h] at hvalue
  have hword : isBlank sign = false → Word (sign :: cs) := fun hblank =>
    ⟨by simp, List.forall_mem_cons.mpr ⟨hblank, h.word.solid⟩⟩
  rcases hsign with rfl | rfl
  · refine ⟨_, _, hword rfl, ?_, .negate hread.derives, Nat.le_refl 1, ?_⟩
    · intro rest more hrest hmore
      exact .token rfl rfl (hread.cuts rest more hrest hmore)
    · rw [Condition.operand, String.toList_ofList, Condition.isNumeric, h.isLiteral, if_pos rfl]
      exact .negate hvalue
  · refine ⟨_, _, hword rfl, ?_, .positive hread.derives, Nat.le_refl 1, ?_⟩
    · intro rest more hrest hmore
      exact .token rfl rfl (hread.cuts rest more hrest hmore)
    · rw [Condition.operand, String.toList_ofList, Condition.isNumeric, h.isLiteral, if_pos rfl]
      exact .positive hvalue

theorem read_quoted {mark : Char} {body : List Char} (hmark : isQuote mark = true)
    (solid : ∀ c ∈ body, isBlank c = false) (hbody : mark ∉ body) :
    Read store (mark :: (body ++ [mark])) [.quoted mark (String.ofList body)]
      (.quoted (String.ofList body)) := by
  have hshape : isBlank mark = false ∧ Decimal.inLiteral mark = false ∧ mark ≠ '-' ∧
      mark ≠ '+' := by
    rw [isQuote, Bool.or_eq_true, beq_iff_eq, beq_iff_eq] at hmark
    rcases hmark with rfl | rfl <;> decide
  obtain ⟨hblank, hliteral, hminus, hplus⟩ := hshape
  refine ⟨⟨by simp, ?_⟩, ?_, .ofAtom (.quoted _ _), Nat.zero_le 1, ?_⟩
  · intro c hc
    simp only [List.mem_cons, List.mem_append, List.not_mem_nil, or_false] at hc
    rcases hc with rfl | hc | rfl
    · exact hblank
    · exact solid c hc
    · exact hblank
  · intro rest more _ hmore
    rw [List.cons_append, List.append_assoc]
    exact .token hblank (nextToken_quoted hmark hbody rest) hmore
  · rw [operand_of_no_number hliteral hminus hplus, unquote?_quoted hmark]
    exact .quoted _

theorem read_name (hname : Store.isIdentifier cs = true)
    (declared : (store.lookup (String.ofList cs)).isSome = true) :
    Read store cs [.name (String.ofList cs)] (.name (String.ofList cs)) := by
  cases cs with
  | nil => cases hname
  | cons c cs =>
      obtain ⟨hletter, hrest⟩ : Store.isLetter c = true ∧ cs.all Store.isLetterOrDigit = true := by
        rwa [Store.isIdentifier, Bool.and_eq_true] at hname
      have starts := startsName_of_isLetter hletter
      have notQuote := isQuote_eq_false (p := startsName) (by decide) (by decide) starts
      have notSymbol := not_mem_symbolStarts (p := startsName) (by decide) starts
      have hin : ∀ d ∈ cs, inName d = true := fun d hd =>
        inName_of_isLetterOrDigit (List.all_eq_true.mp hrest d hd)
      have hword : Word (c :: cs) := ⟨by simp, fun d hd =>
        Store.isBlank_of_isLetterOrDigit (Store.isLetterOrDigit_of_isIdentifier hname d hd)⟩
      refine ⟨hword, ?_, .ofAtom (.name _), Nat.zero_le 1, ?_⟩
      · intro rest more hrest hmore
        exact .token (hword.solid c List.mem_cons_self) (nextToken_name starts hin hrest) hmore
      · have hminus : c ≠ '-' := by
          rintro rfl
          exact notSymbol (by decide)
        have hplus : c ≠ '+' := by
          rintro rfl
          exact notSymbol (by decide)
        rw [operand_of_no_number (inLiteral_of_startsName starts) hminus hplus,
          unquote?_eq_none notQuote]
        obtain ⟨value, found⟩ := Option.isSome_iff_exists.mp declared
        rw [found]
        exact .known found

theorem exists_read (h : Operand store cs) : ∃ tokens tree, Read store cs tokens tree := by
  cases h with
  | number h => exact ⟨_, _, read_literal h⟩
  | signed hsign h => exact read_signed hsign h
  | quoted hmark solid hbody => exact ⟨_, _, read_quoted hmark solid hbody⟩
  | name hname declared => exact ⟨_, _, read_name hname declared⟩

end Operand

def Relation.compare : Relation → Expr.Compare
  | equal => .equal
  | notEqual => .notEqual
  | greater => .greater
  | less => .less

namespace Condition

open Pseudocode.Expr

variable {store : Store} {left right gap gap' : List Char} {relation : Relation}

theorem relation_word (relation : Relation) : Word relation.text.toList := by
  cases relation <;> decide

theorem relation_cuts (relation : Relation) {rest : List Char} {tokens : List Token}
    (hrest : Apart rest) (h : Cuts rest tokens) :
    Cuts (relation.text.toList ++ rest) (.symbol relation.compare.symbol :: tokens) := by
  have hequals : ∀ after, rest ≠ '=' :: after := by
    rintro after rfl
    exact absurd (hrest '=' rfl) (by decide)
  have hsymbol : symbol? (relation.text.toList ++ rest) =
      some (relation.compare.symbol, rest) := by
    cases relation with
    | equal => rfl
    | notEqual => rfl
    | greater => cases rest <;> simp_all [Relation.text, symbol?] <;> rfl
    | less => cases rest <;> simp_all [Relation.text, symbol?] <;> rfl
  cases relation <;> exact .token rfl (nextToken_symbol rfl hsymbol) h

/-- Either a condition comes out as the comparison of its operands does, or both are invalid. -/
theorem holds_or_fails {condition : Condition} (hrelation : condition.relation = relation.text) :
    (∃ b, condition.holds store = .ok b ∧
      relate relation.compare (operand store condition.left) (operand store condition.right) =
        .ok (.boolean b)) ∨
    (∃ fault problem, condition.holds store = .error fault ∧ fault.kind = .invalidExpression ∧
      relate relation.compare (operand store condition.left) (operand store condition.right) =
        .error problem) := by
  have hoperator : condition.operator = .ok relation := by
    rw [operator, hrelation]
    cases relation <;> rfl
  unfold holds relate
  rw [hoperator]
  cases relation with
  | equal => exact .inl ⟨_, rfl, rfl⟩
  | notEqual => exact .inl ⟨_, rfl, rfl⟩
  | greater =>
      by_cases hkind : (operand store condition.left).kind = (operand store condition.right).kind
      · exact .inl ⟨_, if_pos hkind, if_pos (.inr (.inr hkind))⟩
      · refine .inr ⟨_, _, if_neg hkind, rfl, if_neg ?_⟩
        simp [Relation.compare, hkind]
  | less =>
      by_cases hkind : (operand store condition.left).kind = (operand store condition.right).kind
      · exact .inl ⟨_, if_pos hkind, if_pos (.inr (.inr hkind))⟩
      · refine .inr ⟨_, _, if_neg hkind, rfl, if_neg ?_⟩
        simp [Relation.compare, hkind]

def written (left gap : List Char) (relation : Relation) (gap' right : List Char) : String :=
  String.ofList (left ++ (gap ++ (relation.text.toList ++ (gap' ++ right))))

theorem trimmed_written (hleft : Word left) (hright : Word right) :
    Trimmed (left ++ (gap ++ (relation.text.toList ++ (gap' ++ right)))) := by
  have htrimmed := hleft.trimmed.append hright.trimmed (gap ++ (relation.text.toList ++ gap'))
  simpa only [List.append_assoc] using htrimmed

theorem evaluate_written (hleft : Word left) (hright : Word right) (hgap : Gap gap)
    (hgap' : Gap gap') :
    ∃ condition : Condition, condition.left = String.ofList left ∧
      condition.relation = relation.text ∧ condition.right = String.ofList right ∧
      evaluate store (written left gap relation gap' right) = condition.holds store := by
  have htrim : trimString (written left gap relation gap' right) =
      written left gap relation gap' right := by
    rw [trimString, written, String.toList_ofList, (trimmed_written hleft hright).trim_eq]
  have hwords : words (written left gap relation gap' right).toList =
      [left, relation.text.toList, right] := by
    rw [written, String.toList_ofList, hleft.words_append (hgap.apart _), words_append hgap.blank,
      (relation_word relation).words_append (hgap'.apart _), words_append hgap'.blank,
      hright.words_eq]
  refine ⟨⟨written left gap relation gap' right, String.ofList left, relation.text,
    String.ofList right⟩, rfl, rfl, rfl, ?_⟩
  rw [evaluate, read, htrim, hwords]
  simp only [List.map_cons, List.map_nil, String.ofList_toList]
  rfl

theorem expression_written {tokensLeft tokensRight : List Token} {treeLeft treeRight : Tree}
    (hleft : Operand.Read store left tokensLeft treeLeft)
    (hright : Operand.Read store right tokensRight treeRight) (hgap : Gap gap) (hgap' : Gap gap')
    (value : Value) :
    Expr.evaluate store (written left gap relation gap' right) = .ok value ↔
      relate relation.compare (operand store (String.ofList left))
        (operand store (String.ofList right)) = .ok value := by
  have hcuts : Cuts (left ++ (gap ++ (relation.text.toList ++ (gap' ++ right))))
      (tokensLeft ++ .symbol relation.compare.symbol :: tokensRight) := by
    apply hleft.cuts _ _ (hgap.apart _)
    apply Cuts.gap hgap.blank
    apply relation_cuts relation (hgap'.apart _)
    apply Cuts.gap hgap'.blank
    simpa using hright.cuts [] [] apart_nil .nil
  have htokens : tokenize (written left gap relation gap' right) = .ok _ :=
    hcuts.tokenize (trimmed_written hleft.word hright.word)
  have hderives : Derives .comparison _ (.compare relation.compare treeLeft treeRight) :=
    .compare relation.compare (.ofProduct (.ofUnary hleft.derives))
      (.ofProduct (.ofUnary hright.derives))
  have hnesting : (Tree.compare relation.compare treeLeft treeRight).nesting ≤ nestingLimit :=
    Nat.le_trans (Nat.max_le.mpr ⟨hleft.nesting, hright.nesting⟩) (by decide)
  obtain ⟨htree, -⟩ := ofTokens_proper_iff.mpr ⟨hderives, hnesting⟩
  have heval : (Tree.compare relation.compare treeLeft treeRight).eval store =
      relate relation.compare (operand store (String.ofList left))
        (operand store (String.ofList right)) := by
    rw [Tree.eval, eval_eq_ok_iff.mpr hleft.value, eval_eq_ok_iff.mpr hright.value]
    rfl
  rw [evaluate_eq_ok_iff, htokens, ← heval, ← htree]
  constructor
  · rintro ⟨tokens, ⟨⟩, h⟩
    exact eval_eq_ok_iff.mpr h
  · intro h
    exact ⟨_, rfl, eval_eq_ok_iff.mp h⟩

/-- On the texts that are conditions and expressions at once the two evaluations agree: a condition
has an answer just if the expression has this boolean as its value, one fails just if the other
does, and no failure is other than that of an invalid expression. -/
theorem condition_agrees_with_expression (store : Store) (relation : Relation)
    (left right gap gap' : List Char) (hleft : Operand store left) (hright : Operand store right)
    (hgap : Gap gap) (hgap' : Gap gap') :
    (∀ b, evaluate store (written left gap relation gap' right) = .ok b ↔
      Expr.evaluate store (written left gap relation gap' right) = .ok (.boolean b)) ∧
    ((∃ fault, evaluate store (written left gap relation gap' right) = .error fault) ↔
      ∃ fault, Expr.evaluate store (written left gap relation gap' right) = .error fault) ∧
    (∀ fault, evaluate store (written left gap relation gap' right) = .error fault →
      fault.kind = .invalidExpression) ∧
    (∀ fault, Expr.evaluate store (written left gap relation gap' right) = .error fault →
      fault.kind = .invalidExpression) := by
  obtain ⟨tokensLeft, treeLeft, hreadLeft⟩ := hleft.exists_read
  obtain ⟨tokensRight, treeRight, hreadRight⟩ := hright.exists_read
  have hvalue : ∀ value, Expr.evaluate store (written left gap relation gap' right) = .ok value ↔
      relate relation.compare (operand store (String.ofList left))
        (operand store (String.ofList right)) = .ok value :=
    expression_written hreadLeft hreadRight hgap hgap'
  have hkind : ∀ fault, Expr.evaluate store (written left gap relation gap' right) =
      .error fault → fault.kind = .invalidExpression := fun fault h => (Fault.kind_of_evaluate h).1
  obtain ⟨condition, hl, hrelation, hr, hcondition⟩ :
      ∃ condition : Condition, condition.left = String.ofList left ∧
        condition.relation = relation.text ∧ condition.right = String.ofList right ∧
        evaluate store (written left gap relation gap' right) = condition.holds store :=
    evaluate_written hreadLeft.word hreadRight.word hgap hgap'
  rw [hcondition]
  rw [← hl, ← hr] at hvalue
  rcases holds_or_fails hrelation with
    ⟨b, hholds, hrelate⟩ | ⟨fault, problem, hholds, hinvalid, hrelate⟩
  · rw [hholds, (hvalue _).mpr hrelate]
    exact ⟨by simp, by simp, by simp, by simp⟩
  · rw [hholds]
    cases hexpression : Expr.evaluate store (written left gap relation gap' right) with
    | ok value =>
        rw [(hvalue value).mp hexpression] at hrelate
        cases hrelate
    | error fault' =>
        rw [hexpression] at hkind
        refine ⟨by simp, by simp, ?_, hkind⟩
        rintro fault ⟨⟩
        exact hinvalid

theorem condition_agrees_with_expression_signed :
    let store : Store := ⟨[("X1", .create "X1" (.number 2))]⟩
    Operand store ['-', '.', '5'] ∧ Operand store ['x', '1'] ∧
    Condition.evaluate store "-.5 < \tx1" = .ok true ∧
    Expr.evaluate store "-.5 < \tx1" = .ok (.boolean true) := by
  intro store
  have hhalf : Decimal.Literal ([] ++ '.' :: ['5']) :=
    .pointed (.inr (by decide)) (by simp) (List.all_eq_true.mp (by decide))
  have hleft : Operand store ['-', '.', '5'] := .signed (.inl rfl) hhalf
  have hright : Operand store ['x', '1'] := .name (by decide) (by rfl)
  have hcondition : Condition.evaluate store "-.5 < \tx1" = .ok true := by rfl
  refine ⟨hleft, hright, hcondition, ?_⟩
  exact ((condition_agrees_with_expression _ .less _ _ [' '] [' ', '\t'] hleft hright
    (by decide) (by decide)).1 true).mp hcondition

end Condition

end Pseudocode
