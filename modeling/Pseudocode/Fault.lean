import Pseudocode.Decimal.Notation

namespace Pseudocode

inductive FaultKind where
  | invalidIdentifier
  | typeMismatch
  | invalidExpression
  | unknownOperator
  | unexpectedElse
  | unexpectedEndif
  | unexpectedEnd
  | unexpectedEndwhile
  | unexpectedUntil
  | runawayLoop
  | unclosedConstruct
deriving DecidableEq

namespace FaultKind

def name : FaultKind → String
  | invalidIdentifier => "InvalidIdentifier"
  | typeMismatch => "TypeMismatch"
  | invalidExpression => "InvalidExpression"
  | unknownOperator => "UnknownOperator"
  | unexpectedElse => "UnexpectedElse"
  | unexpectedEndif => "UnexpectedEndif"
  | unexpectedEnd => "UnexpectedEnd"
  | unexpectedEndwhile => "UnexpectedEndwhile"
  | unexpectedUntil => "UnexpectedUntil"
  | runawayLoop => "RunawayLoop"
  | unclosedConstruct => "UnclosedConstruct"

def all : List FaultKind :=
  [invalidIdentifier, typeMismatch, invalidExpression, unknownOperator, unexpectedElse,
    unexpectedEndif, unexpectedEnd, unexpectedEndwhile, unexpectedUntil, runawayLoop,
    unclosedConstruct]

def ofName? (name : String) : Option FaultKind := all.find? fun kind => kind.name == name

end FaultKind

/-- A fault: its kind, what happened, and the index of its line, counted from zero, once that is
known. -/
structure Fault where
  kind : FaultKind
  detail : String
  line : Option Int := none
deriving DecidableEq

namespace Fault

def message (fault : Fault) : String :=
  match fault.line with
  | none => fault.kind.name ++ ": " ++ fault.detail
  | some i =>
      fault.kind.name ++ ": " ++ fault.detail ++ " at line " ++ Decimal.integer (i + 1)

def atLine (fault : Fault) (i : Int) : Fault :=
  match fault.line with
  | none => { fault with line := some i }
  | some _ => fault

/-- The line index that reports give; a fault without a line is reported before the first one. -/
def lineIndex (fault : Fault) : Int := fault.line.getD (-1)

def lineNumber (fault : Fault) : Int := fault.lineIndex + 1

end Fault

end Pseudocode
