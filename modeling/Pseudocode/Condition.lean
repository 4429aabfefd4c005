import Pseudocode.Decimal.Reading
import Pseudocode.Expr.Token
import Pseudocode.Store

namespace Pseudocode

open Text

inductive Relation where
  | equal
  | notEqual
  | greater
  | less
deriving DecidableEq

namespace Relation

def text : Relation → String
  | equal => "=="
  | notEqual => "!="
  | greater => ">"
  | less => "<"

def ofText? (s : String) : Option Relation :=
  [equal, notEqual, greater, less].find? fun r => r.text == s

end Relation

structure Condition where
  text : String
  left : String
  relation : String
  right : String

namespace Condition

def read (source : String) : Except Fault Condition :=
  let text := trimString source
  match (words text.toList).map String.ofList with
  | [left, relation, right] => .ok ⟨text, left, relation, right⟩
  | _ =>
      .error { kind := .invalidExpression, detail := "Invalid condition format: '" ++ text ++ "'" }

def describe (condition : Condition) : String :=
  "Condition(parts=(" ++ quotedList [condition.left, condition.relation, condition.right] ++ "))"

def operator (condition : Condition) : Except Fault Relation :=
  match Relation.ofText? condition.relation with
  | some r => .ok r
  | none =>
      .error { kind := .unknownOperator, detail := "Unknown operator: " ++ condition.relation }

def isNumeric : List Char → Bool
  | '-' :: cs => Decimal.isLiteral cs
  | '+' :: cs => Decimal.isLiteral cs
  | cs => Decimal.isLiteral cs

def numericValue : List Char → Float
  | '-' :: cs => -Decimal.literalValue cs 0
  | '+' :: cs => Decimal.literalValue cs 0
  | cs => Decimal.literalValue cs 0

def operand (store : Store) (s : String) : Value :=
  if isNumeric s.toList then .number (numericValue s.toList)
  else
    match Expr.unquote? s with
    | some body => .text body
    | none => (store.lookup s).getD (.number 0.0)

/-- Whether a condition holds. Values of two types are unequal and have no order. -/
def holds (store : Store) (condition : Condition) : Except Fault Bool := do
  let relation ← condition.operator
  let left := operand store condition.left
  let right := operand store condition.right
  match relation with
  | .equal => .ok (left.same right)
  | .notEqual => .ok (!left.same right)
  | ordering =>
      if left.kind = right.kind then
        .ok (if ordering = .greater then right.less left else left.less right)
      else
        .error
          { kind := .invalidExpression
            detail := "Cannot compare " ++ left.kind.name ++ " with " ++ right.kind.name ++
              " in '" ++ condition.text ++ "'" }

def evaluate (store : Store) (source : String) : Except Fault Bool := do
  let condition ← read source
  condition.holds store

end Condition

end Pseudocode
