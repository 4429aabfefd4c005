import Pseudocode.Decimal.Reading
import Pseudocode.Session.Narration
import Pseudocode.Text.Blank
import Pseudocode.Text.Case

namespace Pseudocode.Cli

open Pseudocode.Text

/-- The commands of the debugger. Line numbers are counted from one. -/
inductive DebugCommand where
  | help
  | step (count : Int)
  | badCount
  | resume
  | setBreakpoint (line : Int)
  | clearBreakpoint (line : Int)
  /-- A command that needs a line number stands alone; it is used as shown. -/
  | lineMissing (usage : String)
  | badLine
  | showVariables
  | showOutput
  | location
  | quit
  | unknown (word : String)

namespace DebugCommand

def withLine (arguments : List String) (usage : String) (command : Int → DebugCommand) :
    DebugCommand :=
  match arguments with
  | [] => .lineMissing usage
  | word :: _ =>
      match readInt? word with
      | some line => command line
      | none => .badLine

/-- The command that words write. The case of the first one does not matter. -/
def ofWords (word : String) (arguments : List String) : DebugCommand :=
  match lowerString word with
  | "help" | "h" => .help
  | "step" | "s" =>
      match arguments with
      | [] => .step 1
      | count :: _ =>
          match readInt? count with
          | some n => .step n
          | none => .badCount
  | "continue" | "c" => .resume
  | "break" | "b" => withLine arguments "break <line>" .setBreakpoint
  | "clear" => withLine arguments "clear <line>" .clearBreakpoint
  | "vars" | "v" => .showVariables
  | "output" | "o" => .showOutput
  | "where" | "w" => .location
  | "quit" | "q" | "exit" => .quit
  | other => .unknown other

end DebugCommand

inductive Utterance where
  | prompt (text : String)
  /-- A line that the program writes, at the time when it is written. -/
  | written (text : String)
  /-- The message of the fault that has ended the run. -/
  | failure (message : String)
  | remark (text : String)

def Utterance.render : Utterance → String
  | prompt text => text
  | written text => "OUTPUT: " ++ text ++ "\n"
  | failure message => "Error: " ++ message ++ "\n"
  | remark text => text ++ "\n"

def Utterance.renderAll (said : List Utterance) : String := String.join (said.map render)

/-- A debugger: the session with its notes and with what was heard of it and is not printed yet, the
source lines as they stand in the file, and whether it goes on asking for commands. It is broken
when it was to show what is not there. -/
structure Debugger where
  noted : Session.Noted
  source : List String
  running : Bool := true
  broken : Bool := false

namespace Debugger

def session (d : Debugger) : Session := d.noted.session

def helpLines : List String :=
  ["Commands:",
    "  step [n]      Execute n statements (default 1)",
    "  continue      Run until breakpoint or end",
    "  break <line>  Set breakpoint (1-based line)",
    "  clear <line>  Clear breakpoint",
    "  vars          Show variables",
    "  output        Show output so far",
    "  where         Show next line",
    "  quit          Leave the debugger"]

def greeting : List String := ["PseudoRun debugger", "Type 'help' for commands"]

/-- The question for a command. It tells the next line, or how the run ended. -/
def prompt (d : Debugger) : String :=
  match d.session.machine.currentLine with
  | none => "(" ++ d.session.state.name ++ ")> "
  | some line => "(line " ++ lineNumber line ++ ")> "

/-- What is printed about the state of a session, unless something is missing for it. -/
def report (s : Session) : Option (List Utterance) :=
  match s.state with
  | .ready => some []
  | .paused =>
      s.machine.currentLine.map fun line =>
        [.remark ("Breakpoint hit at line " ++ lineNumber line)]
  | .finished => some [.remark "Program finished"]
  | .error => s.fault.map fun fault => [.failure fault.message]

def breakDown (d : Debugger) : Debugger := { d with running := false, broken := true }

/-- The debugger after its session went on, and what is printed: what was heard meanwhile, then the
state. It stops asking when the run is over. -/
def wentOn (d : Debugger) (noted : Session.Noted) : Debugger × List Utterance :=
  let written := noted.heard.toList.map .written
  let noted := { noted with heard := #[] }
  match report noted.session with
  | some reported => ({ d with noted, running := !noted.session.isDone }, written ++ reported)
  | none => ({ d with noted }.breakDown, written)

def padNumber (n : Nat) : String :=
  let digits := Decimal.digitsOf n
  String.ofList (List.replicate (4 - digits.length) ' ') ++ digits

def showLocation (d : Debugger) : Debugger × List Utterance :=
  match d.session.machine.currentLine with
  | none => (d, [.remark ("Program " ++ d.session.state.name)])
  | some line =>
      match d.source[line]? with
      | some text => (d, [.remark (padNumber (line + 1) ++ ": " ++ text)])
      | none => (d.breakDown, [])

/-- Carry out a command, and say what is printed. `steps` limits a command that goes on by
itself. -/
def perform (steps : Nat) (d : Debugger) : DebugCommand → Debugger × List Utterance
  | .help => (d, helpLines.map .remark)
  | .step count => d.wentOn (d.noted.stepTimes count.toNat)
  | .badCount => (d, [.remark "Invalid step count"])
  | .resume => d.wentOn (d.noted.resume steps)
  | .setBreakpoint line =>
      ({ d with noted := d.noted.addBreakpoint (line - 1) },
        [.remark ("Breakpoint set at line " ++ Decimal.integer line)])
  | .clearBreakpoint line =>
      ({ d with noted := d.noted.removeBreakpoint (line - 1) },
        [.remark ("Breakpoint cleared at line " ++ Decimal.integer line)])
  | .lineMissing usage => (d, [.remark ("Usage: " ++ usage)])
  | .badLine => (d, [.remark "Invalid line number"])
  | .showVariables =>
      match d.session.machine.store.bindings with
      | [] => (d, [.remark "No variables"])
      | bindings => (d, bindings.map fun (name, value) => .remark (name ++ " = " ++ value.render))
  | .showOutput => (d, d.session.machine.output.toList.map .remark)
  | .location => d.showLocation
  | .quit => ({ d with running := false }, [])
  | .unknown word => (d, [.remark ("Unknown command: " ++ word ++ ". Type 'help' for commands")])

def respond (steps : Nat) (d : Debugger) (line : String) : Debugger × List Utterance :=
  match (words line.toList).map String.ofList with
  | [] => (d, [])
  | word :: arguments => d.perform steps (.ofWords word arguments)

/-- What is printed when no more lines are typed in: the input ended, or was interrupted. -/
def farewell (interrupted : Bool) : Utterance :=
  .remark (if interrupted then "\nDebugger interrupted" else "\nDebugger exiting")

/-- A conversation over lines that are typed in: the debugger at its end, and what was printed. -/
def converse (steps : Nat) (interrupted : Bool) (d : Debugger) :
    List String → Debugger × List Utterance
  | [] => if d.running then (d, [.prompt d.prompt, farewell interrupted]) else (d, [])
  | line :: rest =>
      if d.running then
        let (next, said) := d.respond steps line
        let (last, more) := converse steps interrupted next rest
        (last, .prompt d.prompt :: said ++ more)
      else (d, [])

end Debugger

end Pseudocode.Cli
