import Pseudocode.Machine.Narration
import Pseudocode.Session

namespace Pseudocode.Session

/-- The notes on a step of a session: on a pause, or on the statement that is carried out. -/
def stepNotes (s : Session) : List Note :=
  if s.isDone then []
  else
    match s.pausesAt with
    | some line => [⟨.info, .runs, "Breakpoint hit at line " ++ lineNumber line⟩]
    | none =>
        let failure : List Note :=
          match s.execute.fault with
          | some fault => [⟨.info, .runs, "Stepped run failed: " ++ fault.message⟩]
          | none => []
        s.machine.stepNotes ++ failure

/-- What a step of a session tells a listener: the line that its statement writes, if it writes
one. -/
def told (s : Session) : List String :=
  if s.isDone then []
  else
    match s.pausesAt with
    | some _ => []
    | none => s.machine.told

/-- A session with the notes on it and what a listener has heard of it. -/
structure Noted where
  session : Session
  notes : Array Note := #[]
  heard : Array String := #[]

namespace Noted

def step (n : Noted) : Noted :=
  ⟨n.session.step, n.notes ++ n.session.stepNotes, n.heard ++ n.session.told⟩

def stepTimes : (count : Nat) → Noted → Noted
  | 0, n => n
  | count + 1, n =>
      let next := n.step
      if next.session.state = .ready then stepTimes count next else next

def stepWhileReady : (steps : Nat) → Noted → Noted
  | 0, n => n
  | steps + 1, n => if n.session.state = .ready then stepWhileReady steps n.step else n

/-- Go on until the next breakpoint, the end of the program or a fault, within a number of
steps. -/
def resume (steps : Nat) (n : Noted) : Noted :=
  if n.session.state = .paused then stepWhileReady steps n.step else stepWhileReady steps n

def addBreakpoint (n : Noted) (line : Int) : Noted :=
  { n with
    session := n.session.addBreakpoint line
    notes := n.notes.push (.debug .runs ("Breakpoint set at line " ++ Decimal.integer (line + 1))) }

def removeBreakpoint (n : Noted) (line : Int) : Noted :=
  { n with
    session := n.session.removeBreakpoint line
    notes :=
      n.notes.push (.debug .runs ("Breakpoint cleared at line " ++ Decimal.integer (line + 1))) }

end Noted

end Pseudocode.Session
