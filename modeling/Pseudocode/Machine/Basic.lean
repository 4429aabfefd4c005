import Pseudocode.Frame
import Pseudocode.Source.Program

namespace Pseudocode

/-- How many iterations of a `REPEAT` loop are allowed. Settings may also say `true`, which counts
as one and is shown as it was said. -/
inductive RepeatLimit where
  | atMost (n : Int)
  | affirmed
deriving DecidableEq

namespace RepeatLimit

def bound : RepeatLimit → Int
  | atMost n => n
  | affirmed => 1

def shown : RepeatLimit → String
  | atMost n => Decimal.integer n
  | affirmed => "True"

end RepeatLimit

def defaultComment : String := "//"

def defaultLimit : RepeatLimit := .atMost 1000

/-- The state of a run. The program and the limit stay as they are. -/
structure Machine where
  program : Program
  limit : RepeatLimit
  cursor : Nat := 0
  store : Store := {}
  nesting : Nesting := {}
  output : Array String := #[]
  executed : Nat := 0
  finished : Bool := false

inductive Trouble where
  | fault (fault : Fault)
  /-- A frame was to be taken from a stack without frames. -/
  | underflow (stack : StackName)
  | pastEnd
  /-- The line at the cursor holds no statement. -/
  | noStatement
deriving DecidableEq

/-- What carrying out a statement leads to: a further state, or a trouble and the state that it
leaves behind. -/
inductive Outcome where
  | next (machine : Machine)
  | failed (trouble : Trouble) (machine : Machine)

namespace Outcome

def machine : Outcome → Machine
  | next m => m
  | failed _ m => m

def trouble? : Outcome → Option Trouble
  | next _ => none
  | failed trouble _ => some trouble

def andThen : Outcome → (Machine → Outcome) → Outcome
  | next m, f => f m
  | failed trouble m, _ => failed trouble m

end Outcome

namespace Machine

def currentLine (m : Machine) : Option Nat := if m.finished then none else some m.cursor

def unclosed (construct : Construct) (openedAt : Nat) : Fault :=
  { kind := .unclosedConstruct
    detail := "Missing " ++ construct.closer ++ " for " ++ construct.opener
    line := some (openedAt : Int) }

/-- Move the cursor to the next statement. At the end of the program the run is finished if no
construct is open. -/
def advance (m : Machine) : Outcome :=
  let m := { m with cursor := m.program.nextStatement m.cursor }
  if m.cursor < m.program.length then .next m
  else
    match m.nesting.innermost with
    | some frame => .failed (.fault (unclosed frame.construct frame.openedAt)) m
    | none => .next { m with finished := true }

/-- A machine at the first statement of a program. No construct is open yet, so that no fault can
arise. -/
def load (limit : RepeatLimit) (program : Program) : Machine :=
  (advance { program, limit }).machine

def ofSource (comment : String) (limit : RepeatLimit) (source : String) : Machine :=
  load limit (Program.ofSource comment source)

end Machine

end Pseudocode
