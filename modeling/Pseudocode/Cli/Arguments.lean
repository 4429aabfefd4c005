import Pseudocode.Cli.Help
import Pseudocode.Cli.Options
import Pseudocode.Json.Basic

namespace Pseudocode.Cli

open Pseudocode.Text

structure Overrides where
  comment : Option Json := none
  limit : Option Json := none

/-- The setting that an option gives. One without a value gives an empty list. -/
def givenSetting {α : Type} (setting : α → Json) (value : Option α) : Json :=
  (value.map setting).getD (.array [])

/-- A command with its arguments. Breakpoints are line numbers, of which some may be left out. -/
inductive Command where
  | run (input : String) (hideVariables : Bool) (overrides : Overrides)
  | debug (input : String) (breakpoints : List (Option Int))
  | config (showThem save reset : Bool) (overrides : Overrides)
  | validate (input : String)
  | info

structure Invocation where
  settingsFile : Option String := none
  verbose : Bool := false
  debug : Bool := false
  command : Option Command := none

def defaultSettingsFile : String := "pseudorun.config.json"

def Invocation.settingsPath (invocation : Invocation) : String :=
  match invocation.settingsFile with
  | some path => if path.isEmpty then defaultSettingsFile else path
  | none => defaultSettingsFile

def Command.input? : Command → Option String
  | run input _ _ => some input
  | debug input _ => some input
  | validate input => some input
  | config _ _ _ _ => none
  | info => none

/-- Why there is no invocation: help was asked for, or the arguments are wrong. -/
inductive Refusal where
  | help (manual : Manual)
  | complaint (manual : Manual) (message : String)

def parseWith {σ : Type} (manual : Manual) (g : Grammar σ) (start : σ) (arguments : List String) :
    Except Refusal (Parsed σ) :=
  match g.parse start arguments with
  | .ok parsed => .ok parsed
  | .error .help => .error (.help manual)
  | .error (.wrong message) => .error (.complaint manual message)

def helpOption {σ : Type} : OptionSpec σ := ⟨["-h", "--help"], .help⟩

def generalGrammar : Grammar Invocation where
  options :=
    [helpOption,
      ⟨["-c", "--config"], .text fun path i => { i with settingsFile := path }⟩,
      ⟨["-v", "--verbose"], .switch fun i => { i with verbose := true }⟩,
      ⟨["-d", "--debug"], .switch fun i => { i with debug := true }⟩]
  operand := some .command

def inputOperand : Option Operand := some (.word "input")

def Overrides.withComment (overrides : Overrides) (mark : Option String) : Overrides :=
  { overrides with comment := some (givenSetting .text mark) }

def Overrides.withLimit (overrides : Overrides) (limit : Option Int) : Overrides :=
  { overrides with limit := some (givenSetting .integer limit) }

structure RunFlags where
  hideVariables : Bool := false
  overrides : Overrides := {}

def runGrammar : Grammar RunFlags where
  options :=
    [helpOption,
      ⟨["--no-vars"], .switch fun f => { f with hideVariables := true }⟩,
      ⟨["--comment-char"],
        .text fun mark f => { f with overrides := f.overrides.withComment mark }⟩,
      ⟨["--max-repeat"],
        .integer fun n f => { f with overrides := f.overrides.withLimit n }⟩]
  operand := inputOperand

def debugGrammar : Grammar (List (Option Int)) where
  options := [helpOption, ⟨["-b", "--break"], .integer fun n lines => lines ++ [n]⟩]
  operand := inputOperand

structure ConfigFlags where
  showThem : Bool := false
  save : Bool := false
  reset : Bool := false
  overrides : Overrides := {}

def configGrammar : Grammar ConfigFlags where
  options :=
    [helpOption,
      ⟨["--show"], .switch fun f => { f with showThem := true }⟩,
      ⟨["--save"], .switch fun f => { f with save := true }⟩,
      ⟨["--reset"], .switch fun f => { f with reset := true }⟩,
      ⟨["--comment-char"],
        .text fun mark f => { f with overrides := f.overrides.withComment mark }⟩,
      ⟨["--max-repeat"],
        .integer fun n f => { f with overrides := f.overrides.withLimit n }⟩]
  operand := none

def validateGrammar : Grammar Unit where
  options := [helpOption]
  operand := inputOperand

def infoGrammar : Grammar Unit where
  options := [helpOption]
  operand := none

def commandNames : List String := ["run", "debug", "config", "validate", "info"]

def operandWord {σ : Type} (parsed : Parsed σ) : String := (parsed.operand.getD []).headD ""

/-- Read the arguments of a command: the command, and the arguments that have no meaning. -/
def parseCommand (name : String) (arguments : List String) :
    Except Refusal (Command × List String) :=
  match name with
  | "run" => do
      let p ← parseWith .run runGrammar {} arguments
      pure (.run (operandWord p) p.state.hideVariables p.state.overrides, p.extras)
  | "debug" => do
      let p ← parseWith .debug debugGrammar [] arguments
      pure (.debug (operandWord p) p.state, p.extras)
  | "config" => do
      let p ← parseWith .config configGrammar {} arguments
      pure (.config p.state.showThem p.state.save p.state.reset p.state.overrides, p.extras)
  | "validate" => do
      let p ← parseWith .validate validateGrammar () arguments
      pure (.validate (operandWord p), p.extras)
  | "info" => do
      let p ← parseWith .info infoGrammar () arguments
      pure (.info, p.extras)
  | other =>
      .error (.complaint .general
        ("argument command: invalid choice: " ++ quoted other ++ " (choose from " ++
          quotedList commandNames ++ ")"))

def Invocation.parse (arguments : List String) : Except Refusal Invocation := do
  let general ← parseWith .general generalGrammar {} arguments
  let (command, more) ←
    match general.operand with
    | some (name :: rest) => do
        let (command, more) ← parseCommand name rest
        pure (some command, more)
    | _ => pure (none, [])
  match general.extras ++ more with
  | [] => .ok { general.state with command }
  | extras =>
      .error (.complaint .general ("unrecognized arguments: " ++ " ".intercalate extras))

end Pseudocode.Cli
