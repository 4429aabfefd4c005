import Pseudocode.Cli.Debugger
import Pseudocode.Cli.Report
import Pseudocode.Outline
import Pseudocode.Settings

namespace Pseudocode.Cli

open Pseudocode.Text

/-- The context of a command: the files, the settings, and what was printed already. -/
structure Context where
  folder : Folder
  settings : Settings
  printed : String := ""

/-- How a command goes on: it is done, or it starts a conversation with a debugger. -/
inductive Course where
  | done (report : Report)
  | conversation (context : Context) (debugger : Debugger)

namespace Context

def report (c : Context) (out : String) (status : Status) : Report :=
  { out := c.printed ++ out, folder := c.folder, status }

def reportNotes (c : Context) (out : String) (notes : List Note) (status : Status) : Report :=
  { out := c.printed ++ out
    err := journal c.settings.journalLevel notes
    folder := c.folder
    status }

/-- The text of a program file, or the report of a command that cannot read it. -/
def readProgram (c : Context) (path : String) : Except Report (List Char) :=
  if c.folder.has path then
    match c.folder.read path with
    | .ok cs => .ok cs
    | .error fault => .error (c.report "" (.crash (.file fault)))
  else .error (c.report ("Error: Input file '" ++ path ++ "' not found\n") (.exit 1))

/-- The program that a source text writes. A comment mark that is no text does no harm as long as
all lines are empty. -/
def program? (c : Context) (source : String) : Option Program :=
  match c.settings.commentMark? with
  | some mark => some (Program.ofSource mark source)
  | none =>
      if (Line.ofSource source).all (·.raw.isEmpty) then some (Program.ofSource "" source)
      else none

def padName (name : String) : String :=
  name ++ String.ofList (List.replicate (12 - name.length) ' ')

def variableTable (store : Store) : String :=
  match store.bindings with
  | [] => ""
  | bindings =>
      "\n=== Variables ===\n" ++
        unlines (bindings.map fun (name, value) =>
          "  " ++ padName name ++ " = " ++ value.render ++ "  (" ++ value.kind.name ++ ")")

def failureNote (fault : Fault) : Note := ⟨.info, .runs, "Run failed: " ++ fault.message⟩

def successNote (m : Machine) : Note :=
  ⟨.info, .runs,
    "Run finished: " ++ Decimal.digitsOf m.output.size ++ " output lines, " ++
      Decimal.digitsOf m.store.entries.length ++ " variables"⟩

/-- The limit under which a program runs. Where the settings have no number, the first iteration
that is counted exceeds it. -/
def runLimit (c : Context) : RepeatLimit := c.settings.repeatLimit?.getD (.atMost 0)

def lacksLimit (c : Context) (fault : Fault) : Bool :=
  c.settings.repeatLimit?.isNone && fault.kind = .runawayLoop

def run (c : Context) (steps : Nat) (path : String) : Report :=
  match c.readProgram path with
  | .error report => report
  | .ok cs =>
      let source := String.ofList cs
      let heading :=
        if c.settings.verbose.isSet then "\n=== PseudoRun ===\nInput: " ++ path ++ "\n\n" else ""
      match c.program? source with
      | none =>
          c.reportNotes heading (Machine.finishNote 0 :: splitNotes source)
            (.crash .commentMark)
      | some program =>
          let print := fun (printed text : String) => printed ++ text ++ "\n"
          let (m, ending, notes, written) :=
            (Machine.load c.runLimit program).runNoting print steps
              (Machine.loadNotes source program).toArray heading
          let table := if c.settings.showVariables.isSet then variableTable m.store else ""
          match ending with
          | .done =>
              c.reportNotes (written ++ table) (notes.push (successNote m)).toList (.exit 0)
          | .failed (.fault fault) =>
              if c.lacksLimit fault then
                c.reportNotes written notes.toList (.crash .repeatLimit)
              else
                c.reportNotes (written ++ table ++ "\nError: " ++ fault.message ++ "\n")
                  (notes.push (failureNote fault)).toList (.exit 1)
          | .failed trouble => c.reportNotes written notes.toList (.crash (.trouble trouble))
          | .unfinished => c.reportNotes written notes.toList .unfinished

def validate (c : Context) (path : String) : Report :=
  match c.readProgram path with
  | .error report => report
  | .ok cs =>
      let source := String.ofList cs
      let heading := "\n=== Validating " ++ path ++ " ===\n\n"
      match c.program? source with
      | none => c.reportNotes heading (splitNotes source) (.crash .commentMark)
      | some program =>
          let notes := program.faultNotes source
          match program.faults with
          | [] =>
              let total := Decimal.digitsOf (lines cs).length
              c.reportNotes
                (heading ++ "✓ Structure validation passed\n  Total lines: " ++ total ++ "\n")
                notes (.exit 0)
          | faults =>
              let count := Decimal.digitsOf faults.length
              c.reportNotes
                (heading ++ unlines (faults.map fun fault => "✗ " ++ fault.message) ++ "\n" ++
                  count ++ " problem(s) found\n")
                notes (.exit 1)

def debug (c : Context) (path : String) (breakpoints : List (Option Int)) : Course :=
  match c.readProgram path, breakpoints.mapM id with
  | .error report, _ => .done report
  | .ok _, none => .done (c.report "" (.crash .breakpoint))
  | .ok cs, some lineNumbers =>
      let source := String.ofList cs
      match c.program? source with
      | none =>
          .done
            (c.reportNotes "" (Machine.finishNote 0 :: splitNotes source) (.crash .commentMark))
      | some program =>
          let session :=
            Session.ofMachine (Machine.load c.runLimit program) (lineNumbers.map (· - 1))
          .conversation { c with printed := c.printed ++ unlines Debugger.greeting }
            { noted := { session, notes := (Machine.loadNotes source program).toArray }
              source := (lines cs).map String.ofList }

def debugStatus (d : Debugger) : Status :=
  if d.broken then .crash (.trouble .pastEnd)
  else .exit (if d.session.state = .error then 1 else 0)

def enabled (value : Json) : String := if value.isSet then "enabled" else "disabled"

def display (settings : Settings) : String :=
  unlines
    ["",
      "=== Interpreter Configuration ===",
      "  Comment prefix:           " ++ settings.comment.shown,
      "  REPEAT iteration limit:   " ++ settings.limit.shown,
      "  Show variables:           " ++ enabled settings.showVariables,
      "  Debug mode:               " ++ enabled settings.debugMode,
      "  Verbose output:           " ++ enabled settings.verbose,
      ""]

def config (c : Context) (path : String) (showThem save reset : Bool) : Report :=
  let settings : Settings := if reset then {} else c.settings
  let resetText := if reset then "Configuration reset to defaults\n" else ""
  let shown := if showThem || !(save || reset) then display settings else ""
  if save then
    match c.folder.write path settings.render with
    | .error fault => c.report resetText (.crash (.file fault))
    | .ok folder =>
        { c with folder }.report
          (resetText ++ "Configuration saved to: " ++ path ++ "\n" ++ shown) (.exit 0)
  else c.report (resetText ++ shown) (.exit 0)

def rule : String := String.ofList (List.replicate 60 '=')

def about (settings : Settings) : String :=
  unlines
    ["",
      rule,
      "                    PseudoRun Interpreter",
      rule,
      "",
      "Supported statements:",
      "  • BEGIN ... END blocks",
      "  • OUTPUT / DISPLAY / SHOW <variable or text>",
      "  • <name> = <expression>   (+ - * / ( ), comparisons, strings)",
      "  • IF <a> <op> <b> THEN ... [ELSE ...] ENDIF",
      "  • FOR <v> = <a> TO <b> DO ... END",
      "  • WHILE <a> <op> <b> ... ENDWHILE",
      "  • REPEAT ... UNTIL <a> <op> <b>",
      "",
      "Condition operators: >  <  ==  !=",
      "Comment prefix: " ++ settings.comment.shown,
      "REPEAT iteration limit: " ++ settings.limit.shown,
      "",
      "Command-Line Usage:",
      "  pseudorun run <program.txt> [options]",
      "  pseudorun debug <program.txt> [-b LINE ...]",
      "  pseudorun validate <program.txt>",
      "  pseudorun config [options]",
      "  pseudorun info",
      rule,
      ""]

def info (c : Context) : Report := c.report (about c.settings) (.exit 0)

end Context

end Pseudocode.Cli
