import Pseudocode.Decimal.Reading
import Pseudocode.Text.Blank
import Pseudocode.Text.Quoted
import Pseudocode.Value

namespace Pseudocode.Expr

open Pseudocode.Text

inductive Symbol where
  | plus
  | minus
  | times
  | divide
  | openParen
  | closeParen
  | equal
  | notEqual
  | greaterEqual
  | lessEqual
  | greater
  | less
deriving DecidableEq

def Symbol.text : Symbol → String
  | .plus => "+"
  | .minus => "-"
  | .times => "*"
  | .divide => "/"
  | .openParen => "("
  | .closeParen => ")"
  | .equal => "=="
  | .notEqual => "!="
  | .greaterEqual => ">="
  | .lessEqual => "<="
  | .greater => ">"
  | .less => "<"

/-- A token. A number keeps its text and a quoted text its quote. -/
inductive Token where
  | number (text : String)
  | quoted (mark : Char) (body : String)
  | name (text : String)
  | symbol (s : Symbol)
deriving DecidableEq

def Token.text : Token → String
  | .number text => text
  | .quoted mark body => String.ofList (mark :: body.toList ++ [mark])
  | .name text => text
  | .symbol s => s.text

inductive Problem where
  | unterminated (rest : String)
  | unexpectedCharacter (c : Char)
  | empty
  | trailing (tokens : List Token)
  | tooDeep
  | endOfExpression
  | missingClose
  | unexpectedToken (token : Token)
  | cannotNegate (kind : ValueKind)
  | signOfNonNumber (kind : ValueKind)
  | needsNumbers (symbol : Symbol) (left right : ValueKind)
  | divisionByZero
  | notFinite
  | cannotCompare (left right : ValueKind)

def Problem.message : Problem → String
  | .unterminated rest => "Unterminated string literal: " ++ rest
  | .unexpectedCharacter c => "Unexpected character '" ++ c.toString ++ "'"
  | .empty => "Empty expression"
  | .trailing tokens => "Unexpected tokens: [" ++ quotedList (tokens.map Token.text) ++ "]"
  | .tooDeep => "Expression nested too deeply"
  | .endOfExpression => "Unexpected end of expression"
  | .missingClose => "Missing ')'"
  | .unexpectedToken token => "Unexpected token '" ++ token.text ++ "'"
  | .cannotNegate kind => "Cannot negate a " ++ kind.name
  | .signOfNonNumber kind => "Unary '+' needs a number, got " ++ kind.name
  | .needsNumbers symbol left right =>
      "Operator '" ++ symbol.text ++ "' needs numbers, got " ++ left.name ++ " and " ++ right.name
  | .divisionByZero => "Division by zero"
  | .notFinite => "Result is not a finite number"
  | .cannotCompare left right => "Cannot compare " ++ left.name ++ " with " ++ right.name

def isQuote (c : Char) : Bool := c == '"' || c == '\''

def unquote? (s : String) : Option String :=
  match s.toList with
  | c :: d :: rest =>
      if isQuote c && (d :: rest).getLast? == some c then
        some (String.ofList (d :: rest).dropLast)
      else none
  | _ => none

def startsName (c : Char) : Bool := c.isAlpha || c == '_'

def inName (c : Char) : Bool := c.isAlphanum || c == '_'

def symbol? : List Char → Option (Symbol × List Char)
  | '=' :: '=' :: rest => some (.equal, rest)
  | '!' :: '=' :: rest => some (.notEqual, rest)
  | '>' :: '=' :: rest => some (.greaterEqual, rest)
  | '<' :: '=' :: rest => some (.lessEqual, rest)
  | '+' :: rest => some (.plus, rest)
  | '-' :: rest => some (.minus, rest)
  | '*' :: rest => some (.times, rest)
  | '/' :: rest => some (.divide, rest)
  | '(' :: rest => some (.openParen, rest)
  | ')' :: rest => some (.closeParen, rest)
  | '>' :: rest => some (.greater, rest)
  | '<' :: rest => some (.less, rest)
  | _ => none

/-- The token at the start of a text that does not start with a blank, and what follows it. -/
def nextToken (c : Char) (rest : List Char) : Except Problem (Token × List Char) :=
  if isQuote c then
    match rest.dropWhile (· != c) with
    | [] => .error (.unterminated (String.ofList (c :: rest)))
    | _ :: after => .ok (.quoted c (String.ofList (rest.takeWhile (· != c))), after)
  else
    match symbol? (c :: rest) with
    | some (s, after) => .ok (.symbol s, after)
    | none =>
        match Decimal.literal? (c :: rest) with
        | some (number, after) => .ok (.number (String.ofList number), after)
        | none =>
            if startsName c then
              .ok (.name (String.ofList (c :: rest.takeWhile inName)), rest.dropWhile inName)
            else .error (.unexpectedCharacter c)

/-- The tokens of a text. A token takes at least one character, so a text has no more tokens than
characters, and `bound` need not be larger than its length. -/
def tokensWithin : Nat → List Char → Except Problem (List Token)
  | _, [] => .ok []
  | 0, _ => .ok []
  | bound + 1, c :: rest =>
      if isBlank c then tokensWithin bound rest
      else do
        let (token, after) ← nextToken c rest
        let more ← tokensWithin bound after
        pure (token :: more)

def tokenize (expression : String) : Except Problem (List Token) :=
  let cs := trim expression.toList
  tokensWithin cs.length cs

end Pseudocode.Expr
