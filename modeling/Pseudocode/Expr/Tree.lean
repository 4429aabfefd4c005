import Pseudocode.Expr.Token

/-!
Expressions as trees, read from tokens:

    comparison := sum (('==' | '!=' | '>=' | '<=' | '>' | '<') sum)?
    sum        := product (('+' | '-') product)*
    product    := unary (('*' | '/') unary)*
    unary      := ('-' | '+') unary | atom
    atom       := number | quoted text | name | '(' comparison ')'

A tree is read for every list of tokens. Where the tokens follow the grammar no longer, the tree
says so at that place, so that evaluation from left to right meets the faults of an expression in
the order in which they stand.
-/

namespace Pseudocode.Expr

inductive Arith where
  | add
  | sub
  | mul
  | div
deriving DecidableEq

inductive Compare where
  | equal
  | notEqual
  | greaterEqual
  | lessEqual
  | greater
  | less
deriving DecidableEq

def Arith.symbol : Arith → Symbol
  | .add => .plus
  | .sub => .minus
  | .mul => .times
  | .div => .divide

inductive Tree where
  | number (text : String)
  | quoted (body : String)
  | name (text : String)
  | negate (operand : Tree)
  | positive (operand : Tree)
  | group (inner : Tree)
  | arith (op : Arith) (left right : Tree)
  | compare (op : Compare) (left right : Tree)
  | missing (problem : Problem)
  /-- The tokens go wrong right after a subexpression. -/
  | brokenOff (before : Tree) (problem : Problem)

def nestingLimit : Nat := 100

abbrev Reader := List Token → Tree × List Token

def sumOp? : Token → Option Arith
  | .symbol .plus => some .add
  | .symbol .minus => some .sub
  | _ => none

def productOp? : Token → Option Arith
  | .symbol .times => some .mul
  | .symbol .divide => some .div
  | _ => none

def compareOp? : Token → Option Compare
  | .symbol .equal => some .equal
  | .symbol .notEqual => some .notEqual
  | .symbol .greaterEqual => some .greaterEqual
  | .symbol .lessEqual => some .lessEqual
  | .symbol .greater => some .greater
  | .symbol .less => some .less
  | _ => none

/-- Go on with operations of one rank, to the left first. Each one takes a token, so `bound` need
not be larger than the number of tokens. -/
def readChain (op? : Token → Option Arith) (operand : Reader) :
    Nat → Tree → List Token → Tree × List Token
  | bound + 1, left, token :: tokens =>
      match op? token with
      | some op =>
          let (right, rest) := operand tokens
          readChain op? operand bound (.arith op left right) rest
      | none => (left, token :: tokens)
  | _, left, tokens => (left, tokens)

def readRank (op? : Token → Option Arith) (operand : Reader) : Reader := fun tokens =>
  let (left, rest) := operand tokens
  readChain op? operand rest.length left rest

def readProduct (unary : Reader) : Reader := readRank productOp? unary

def readSum (unary : Reader) : Reader := readRank sumOp? (readProduct unary)

def readComparison (unary : Reader) : Reader := fun tokens =>
  let (left, rest) := readSum unary tokens
  match rest with
  | [] => (left, [])
  | token :: more =>
      match compareOp? token with
      | some op =>
          let (right, rest) := readSum unary more
          (.compare op left right, rest)
      | none => (left, token :: more)

/-- Read a signed or plain atom in which `depth` more signs and parentheses may be nested. -/
def readUnary : Nat → Reader
  | _, [] => (.missing .endOfExpression, [])
  | 0, .symbol .minus :: _ => (.missing .tooDeep, [])
  | depth + 1, .symbol .minus :: tokens =>
      let (operand, rest) := readUnary depth tokens
      (.negate operand, rest)
  | 0, .symbol .plus :: _ => (.missing .tooDeep, [])
  | depth + 1, .symbol .plus :: tokens =>
      let (operand, rest) := readUnary depth tokens
      (.positive operand, rest)
  | 0, .symbol .openParen :: _ => (.missing .tooDeep, [])
  | depth + 1, .symbol .openParen :: tokens =>
      let (inner, rest) := readComparison (readUnary depth) tokens
      match rest with
      | .symbol .closeParen :: rest => (.group inner, rest)
      | _ => (.brokenOff inner .missingClose, [])
  | _, .number text :: tokens => (.number text, tokens)
  | _, .quoted _ body :: tokens => (.quoted body, tokens)
  | _, .name text :: tokens => (.name text, tokens)
  | _, token :: _ => (.missing (.unexpectedToken token), [])

def Tree.ofTokens : List Token → Tree
  | [] => .missing .empty
  | tokens =>
      match readComparison (readUnary nestingLimit) tokens with
      | (tree, []) => tree
      | (tree, rest) => .brokenOff tree (.trailing rest)

end Pseudocode.Expr
