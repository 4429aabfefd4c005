import Pseudocode.Decimal.Notation

namespace Pseudocode

inductive ValueKind where
  | number
  | boolean
  | text
deriving DecidableEq

def ValueKind.name : ValueKind → String
  | .number => "number"
  | .boolean => "boolean"
  | .text => "string"

/-- A value. Numbers are doubles. -/
inductive Value where
  | number (x : Float)
  | boolean (b : Bool)
  | text (s : String)

namespace Value

def kind : Value → ValueKind
  | number _ => .number
  | boolean _ => .boolean
  | text _ => .text

def render : Value → String
  | number x => Decimal.render x
  | boolean b => if b then "TRUE" else "FALSE"
  | text s => s

/-- Whether two values have the same type and are equal in it. No number equals an invalid
number, and the two zeros are equal. -/
def same : Value → Value → Bool
  | number x, number y => x == y
  | boolean a, boolean b => a == b
  | text s, text t => s == t
  | _, _ => false

/-- Whether a value comes before another of the same type: numbers by size, `FALSE` before `TRUE`,
texts by code points. -/
def less : Value → Value → Bool
  | number x, number y => x < y
  | boolean a, boolean b => !a && b
  | text s, text t => s < t
  | _, _ => false

/-- Whether a value is at most another of the same type. An invalid number is at most none. -/
def atMost : Value → Value → Bool
  | number x, number y => x ≤ y
  | boolean a, boolean b => !a || b
  | text s, text t => !decide (t < s)
  | _, _ => false

end Value

end Pseudocode
