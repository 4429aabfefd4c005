import Pseudocode.Outline
import Pseudocode.Session

/-!
The registry of open sessions that clients step through by requests, each of which may carry out a
limited number of statements. Sessions are kept in order of creation under the names that they
were created with. A request is one step here. Requests that overlap, where another one is let in
between the statements of one that makes many steps, are outside this description.
-/

namespace Pseudocode

/-- How many statements one request may carry out. -/
def maxSteps : Nat := 10000

/-- How many sessions may be open. -/
def maxSessions : Nat := 100

/-- The open sessions with their names, oldest first. -/
structure Registry where
  sessions : List (String × Session) := []

namespace Registry

def names (registry : Registry) : List String := registry.sessions.map (·.1)

def get? (registry : Registry) (name : String) : Option Session := registry.sessions.lookup name

def replace (registry : Registry) (name : String) (session : Session) : Registry :=
  ⟨registry.sessions.map fun entry => if entry.1 == name then (name, session) else entry⟩

def erase (registry : Registry) (name : String) : Registry :=
  ⟨registry.sessions.filter fun entry => entry.1 != name⟩

/-- Make room for a new session: the sessions that are done go, and then the oldest ones. -/
def prune (registry : Registry) : Registry :=
  let active := registry.sessions.filter fun entry => !entry.2.isDone
  ⟨active.drop (active.length - (maxSessions - 1))⟩

def insert (registry : Registry) (name : String) (session : Session) : Registry :=
  ⟨registry.prune.sessions ++ [(name, session)]⟩

end Registry

/-- A request. Lines are counted from one. -/
inductive Request where
  | run (code : String)
  | validate (code : String)
  | create (code : String) (breakpoints : List Int)
  | state (name : String)
  | step (name : String) (count : Int)
  | resume (name : String)
  | setBreakpoint (name : String) (line : Int) (enabled : Bool)
  | clearBreakpoints (name : String)
  | close (name : String)

/-- What went wrong in a run that a client asked for: a fault of the program, or the limit on
statements, which was reached before a line. -/
inductive Complaint where
  | fault (fault : Fault)
  | stepLimit (line : Nat)

namespace Complaint

def kind : Complaint → String
  | fault f => f.kind.name
  | stepLimit _ => "StepLimit"

def message : Complaint → String
  | fault f => f.message
  | stepLimit _ =>
      "Execution stopped after " ++ Decimal.digitsOf maxSteps ++
        " statements (infinite loop protection)"

def line : Complaint → Int
  | fault f => f.lineNumber
  | stepLimit i => (i : Int) + 1

end Complaint

/-- A session as clients see it. Lines are counted from one. -/
structure Snapshot where
  output : Array String
  bindings : List (String × Value)
  state : SessionState
  line : Option Nat
  breakpoints : List Int
  complaint : Option Complaint

def Session.snapshot (s : Session) : Snapshot :=
  { output := s.machine.output
    bindings := s.machine.store.bindings
    state := s.state
    line := s.machine.currentLine.map (· + 1)
    breakpoints := s.breakpoints.lines.map (· + 1)
    complaint := s.fault.map .fault }

/-- What a client is told after a request that makes steps: whether all went well, how many steps
were made, and the session. -/
structure Progress where
  success : Bool
  steps : Nat
  snapshot : Snapshot

/-- What a client is told when the limit on statements was reached before a line. -/
def Progress.atLimit (p : Progress) (line : Nat) : Progress :=
  { p with
    success := false
    snapshot := { p.snapshot with complaint := some (.stepLimit line) } }

inductive Answer where
  | ran (progress : Progress)
  | validated (faults : List Fault)
  | created (name : String) (snapshot : Snapshot)
  | state (snapshot : Snapshot)
  | advanced (progress : Progress)
  | breakpoints (lines : List Int)
  | cleared
  | closed (name : String)
  | unknown (name : String)

def Answer.message? : Answer → Option String
  | cleared => some "All breakpoints cleared"
  | closed name => some ("Session " ++ name ++ " closed")
  | unknown name => some ("Unknown session: " ++ name)
  | _ => none

def Answer.success : Answer → Bool
  | ran progress => progress.success
  | advanced progress => progress.success
  | validated faults => faults.isEmpty
  | unknown _ => false
  | _ => true

namespace Session

/-- Step while the session is ready, at most `budget` times, and count the steps. -/
def spend : (budget : Nat) → Session → Session × Nat
  | 0, s => (s, 0)
  | budget + 1, s =>
      if s.state = .ready then
        let (s, steps) := spend budget s.step
        (s, steps + 1)
      else (s, 0)

/-- Go on until the session stops or the limit on statements is reached, and count the steps. -/
def advance (s : Session) : Session × Nat :=
  if s.state = .paused then
    let (s, steps) := spend (maxSteps - 1) s.step
    (s, steps + 1)
  else spend maxSteps s

/-- Step up to `count` times and stop early when the session is no longer ready. -/
def stepUpTo : (count : Nat) → Session → Session × Nat
  | 0, s => (s, 0)
  | count + 1, s =>
      if s.isDone then (s, 0)
      else
        let next := s.step
        if next.state = .ready then
          let (last, steps) := stepUpTo count next
          (last, steps + 1)
        else (next, 1)

def progress (s : Session) (steps : Nat) : Progress :=
  { success := s.fault.isNone, steps, snapshot := s.snapshot }

def progressOfRun (s : Session) (steps : Nat) : Progress :=
  if s.isDone then s.progress steps else (s.progress steps).atLimit s.machine.cursor

def progressOfResume (s : Session) (steps : Nat) : Progress :=
  if s.state = .ready ∧ maxSteps ≤ steps then (s.progress steps).atLimit s.machine.cursor
  else s.progress steps

end Session

namespace Registry

def withSession (registry : Registry) (name : String)
    (answer : Session → Registry × Answer) : Registry × Answer :=
  match registry.get? name with
  | none => (registry, .unknown name)
  | some session => answer session

/-- Answer a request. A new session takes the name `fresh`. -/
def handle (registry : Registry) (fresh : String) : Request → Registry × Answer
  | .run code =>
      let (session, steps) := (Session.start defaultComment defaultLimit code []).advance
      (registry, .ran (session.progressOfRun steps))
  | .validate code => (registry, .validated (Program.ofSource defaultComment code).faults)
  | .create code breakpoints =>
      let session :=
        Session.start defaultComment defaultLimit code (breakpoints.map (· - 1))
      (registry.insert fresh session, .created fresh session.snapshot)
  | .state name =>
      registry.withSession name fun session => (registry, .state session.snapshot)
  | .step name count =>
      registry.withSession name fun session =>
        let (session, steps) := session.stepUpTo (min (max count 1) maxSteps).toNat
        (registry.replace name session, .advanced (session.progress steps))
  | .resume name =>
      registry.withSession name fun session =>
        let (session, steps) := session.advance
        (registry.replace name session, .advanced (session.progressOfResume steps))
  | .setBreakpoint name line enabled =>
      registry.withSession name fun session =>
        let session :=
          if enabled then session.addBreakpoint (line - 1) else session.removeBreakpoint (line - 1)
        (registry.replace name session, .breakpoints session.snapshot.breakpoints)
  | .clearBreakpoints name =>
      registry.withSession name fun session =>
        (registry.replace name session.clearBreakpoints, .cleared)
  | .close name =>
      registry.withSession name fun _ => (registry.erase name, .closed name)

end Registry

end Pseudocode
