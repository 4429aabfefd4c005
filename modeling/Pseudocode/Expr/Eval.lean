import Pseudocode.Expr.Tree
import Pseudocode.Store

namespace Pseudocode.Expr

def Arith.apply : Arith → Float → Float → Float
  | .add, x, y => x + y
  | .sub, x, y => x - y
  | .mul, x, y => x * y
  | .div, x, y => x / y

def calculate (op : Arith) : Value → Value → Except Problem Value
  | .number x, .number y =>
      if op = .div ∧ (y == 0.0) = true then .error .divisionByZero
      else
        let z := op.apply x y
        if z.isFinite then .ok (.number z) else .error .notFinite
  | left, right => .error (.needsNumbers op.symbol left.kind right.kind)

/-- An operation on two values; adding to or with a text writes one after the other. -/
def combine (op : Arith) (left right : Value) : Except Problem Value :=
  if op = .add ∧ (left.kind = .text ∨ right.kind = .text) then
    .ok (.text (left.render ++ right.render))
  else calculate op left right

def Compare.holds : Compare → Value → Value → Bool
  | .equal, l, r => l.same r
  | .notEqual, l, r => !l.same r
  | .greaterEqual, l, r => r.atMost l
  | .lessEqual, l, r => l.atMost r
  | .greater, l, r => r.less l
  | .less, l, r => l.less r

/-- Compare two values. Values of two types are unequal and have no order. -/
def relate (op : Compare) (left right : Value) : Except Problem Value :=
  if op = .equal ∨ op = .notEqual ∨ left.kind = right.kind then
    .ok (.boolean (op.holds left right))
  else .error (.cannotCompare left.kind right.kind)

def resolve (store : Store) (name : String) : Value :=
  match store.lookup name with
  | some value => value
  | none =>
      match Text.upperString name with
      | "TRUE" => .boolean true
      | "FALSE" => .boolean false
      | _ => .text name

def Tree.eval (store : Store) : Tree → Except Problem Value
  | .number text => .ok (.number (Decimal.literalValue text.toList 0))
  | .quoted body => .ok (.text body)
  | .name text => .ok (resolve store text)
  | .negate operand => do
      match ← operand.eval store with
      | .number x => .ok (.number (-x))
      | value => .error (.cannotNegate value.kind)
  | .positive operand => do
      match ← operand.eval store with
      | .number x => .ok (.number x)
      | value => .error (.signOfNonNumber value.kind)
  | .group inner => inner.eval store
  | .arith op left right => do
      let l ← left.eval store
      let r ← right.eval store
      combine op l r
  | .compare op left right => do
      let l ← left.eval store
      let r ← right.eval store
      relate op l r
  | .missing problem => .error problem
  | .brokenOff before problem => do
      let _ ← before.eval store
      .error problem

def value (store : Store) (expression : String) : Except Problem Value := do
  let tokens ← tokenize expression
  (Tree.ofTokens tokens).eval store

def evaluate (store : Store) (expression : String) : Except Fault Value :=
  match value store expression with
  | .ok v => .ok v
  | .error problem =>
      .error
        { kind := .invalidExpression
          detail := "Invalid expression: " ++ expression ++ " (" ++ problem.message ++ ")" }

end Pseudocode.Expr
