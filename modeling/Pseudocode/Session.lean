import Pseudocode.Machine.Run

namespace Pseudocode

inductive SessionState where
  | ready
  | paused
  | finished
  | error
deriving DecidableEq

def SessionState.name : SessionState → String
  | ready => "ready"
  | paused => "paused"
  | finished => "finished"
  | error => "error"

/-- Lines at which a session pauses, counted from zero, ascending and each once. -/
structure Breakpoints where
  lines : List Int := []

namespace Breakpoints

def insertLine (line : Int) : List Int → List Int
  | [] => [line]
  | other :: rest =>
      if line < other then line :: other :: rest
      else if line = other then other :: rest
      else other :: insertLine line rest

def add (breakpoints : Breakpoints) (line : Int) : Breakpoints :=
  ⟨insertLine line breakpoints.lines⟩

def remove (breakpoints : Breakpoints) (line : Int) : Breakpoints :=
  ⟨breakpoints.lines.filter (· ≠ line)⟩

def ofList (lines : List Int) : Breakpoints := lines.foldl add {}

def has (breakpoints : Breakpoints) (line : Nat) : Bool := breakpoints.lines.contains (line : Int)

end Breakpoints

/-- A stepped run: the machine, the breakpoints, the state, the fault that ended the run, and the
breakpoint at which the session paused last and has not gone on from. -/
structure Session where
  machine : Machine
  breakpoints : Breakpoints
  state : SessionState
  fault : Option Fault := none
  acknowledged : Option Nat := none

namespace Session

def ofMachine (machine : Machine) (breakpoints : List Int) : Session :=
  { machine
    breakpoints := .ofList breakpoints
    state := if machine.finished then .finished else .ready }

def start (comment : String) (limit : RepeatLimit) (source : String) (breakpoints : List Int) :
    Session :=
  ofMachine (Machine.ofSource comment limit source) breakpoints

def isDone (s : Session) : Bool := s.state = .finished || s.state = .error

def pausesAt (s : Session) : Option Nat :=
  match s.machine.currentLine with
  | none => none
  | some line =>
      if s.breakpoints.has line && s.acknowledged != some line then some line else none

def execute (s : Session) : Session :=
  match s.machine.step with
  | .next machine =>
      { s with
        machine
        acknowledged := none
        state := if machine.finished then .finished else .ready }
  | .failed trouble machine =>
      { s with
        machine
        acknowledged := none
        state := .error
        fault := match trouble with | .fault fault => some fault | _ => none }

/-- One step: pause at a breakpoint that was not paused at yet, else carry out one statement. -/
def step (s : Session) : Session :=
  if s.isDone then s
  else
    match s.pausesAt with
    | some line => { s with acknowledged := some line, state := .paused }
    | none => s.execute

def stepWhileReady : (steps : Nat) → Session → Session
  | 0, s => s
  | steps + 1, s => if s.state = .ready then stepWhileReady steps s.step else s

/-- Go on until the next breakpoint, the end of the program or a fault, within a number of
steps. -/
def resume (steps : Nat) (s : Session) : Session :=
  if s.state = .paused then stepWhileReady steps s.step else stepWhileReady steps s

def addBreakpoint (s : Session) (line : Int) : Session :=
  { s with breakpoints := s.breakpoints.add line }

def removeBreakpoint (s : Session) (line : Int) : Session :=
  { s with breakpoints := s.breakpoints.remove line }

def clearBreakpoints (s : Session) : Session := { s with breakpoints := {} }

end Session

end Pseudocode
