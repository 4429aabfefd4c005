import Pseudocode.Cli.Arguments
import Pseudocode.Cli.Context

namespace Pseudocode.Cli

def settingsComplaint (path : String) : SettingsFault → String
  | .notObject => "Error: Config file " ++ path ++ " must hold a JSON object\n"
  | .unknown keys =>
      "Error: Unknown settings in " ++ path ++ ": " ++ ", ".intercalate keys ++ "\n"
  | .badLimit =>
      "Error: max_repeat_iterations must be a positive integer in " ++ path ++ "\n"

/-- The context with the settings of a file, or with the usual ones if it is not there; or the
report of a command that ends because the file cannot be used. -/
def loadSettings (folder : Folder) (path : String) : Except Report Context :=
  let usual : Context := { folder, settings := {} }
  if folder.has path then
    match folder.read path with
    | .error fault => .error (usual.report "" (.crash (.file fault)))
    | .ok cs =>
        match Json.read cs with
        | .error (.malformed reason place) =>
            let text := Json.describe cs reason place
            .error
              (usual.report ("Error: Invalid config file " ++ path ++ ": " ++ text ++ "\n")
                (.exit 1))
        | .error (.tooManyDigits count) =>
            .error (usual.report "" (.crash (.tooManyDigits count)))
        | .ok value =>
            match Settings.ofJson value with
            | .error fault => .error (usual.report (settingsComplaint path fault) (.exit 1))
            | .ok settings =>
                let printed :=
                  if settings.verbose.isSet then "Loaded configuration from: " ++ path ++ "\n"
                  else ""
                .ok { folder, settings, printed }
  else .ok usual

def Overrides.apply (overrides : Overrides) (settings : Settings) : Settings :=
  { settings with
    comment := overrides.comment.getD settings.comment
    limit := overrides.limit.getD settings.limit }

def Invocation.apply (invocation : Invocation) (settings : Settings) : Settings :=
  { settings with
    verbose := if invocation.verbose then .boolean true else settings.verbose
    debugMode := if invocation.debug then .boolean true else settings.debugMode }

/-- Carry out a command. `steps` limits the statements of a run. -/
def Command.perform (c : Context) (steps : Nat) (settingsPath : String) : Command → Course
  | run input hideVariables overrides =>
      let settings := overrides.apply c.settings
      let showVariables := if hideVariables then .boolean false else settings.showVariables
      .done ({ c with settings := { settings with showVariables } }.run steps input)
  | debug input breakpoints => c.debug input breakpoints
  | config showThem save reset overrides =>
      let c := { c with settings := overrides.apply c.settings }
      .done (c.config settingsPath showThem save reset)
  | validate input => .done (c.validate input)
  | info => .done c.info

/-- Carry out what arguments say. `steps` limits the statements of a run. -/
def start (steps : Nat) (folder : Folder) (arguments : List String) : Course :=
  match Invocation.parse arguments with
  | .error (.help manual) => .done { out := manual.help, folder, status := .exit 0 }
  | .error (.complaint manual message) =>
      .done { err := manual.complaint message, folder, status := .exit 2 }
  | .ok invocation =>
      match invocation.command with
      | none => .done { out := Manual.general.help, folder, status := .exit 0 }
      | some command =>
          match loadSettings folder invocation.settingsPath with
          | .error report => .done report
          | .ok c =>
              let c := { c with settings := invocation.apply c.settings }
              command.perform c steps invocation.settingsPath

/-- What is typed in while a command runs: lines, and then the end of the input or an interrupt. -/
structure Typed where
  lines : List String := []
  interrupted : Bool := false

/-- Carry out what arguments say, with all that is typed in. `steps` limits the statements of a run
and of each command to a debugger. -/
def invoke (steps : Nat) (folder : Folder) (typed : Typed) (arguments : List String) : Report :=
  match start steps folder arguments with
  | .done report => report
  | .conversation c d =>
      let (last, said) := d.converse steps typed.interrupted typed.lines
      c.reportNotes (Utterance.renderAll said) last.noted.notes.toList (Context.debugStatus last)

end Pseudocode.Cli
