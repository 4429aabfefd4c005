import Pseudocode.Journal
import Pseudocode.Json.Basic
import Pseudocode.Json.Reader
import Pseudocode.Machine.Basic

/-!
The settings of the command line and the files that keep them. A file is a JSON object with some
of the settings. Only the limit on `REPEAT` loops is checked when a file is read; the other settings
are kept as they were written and taken for set unless they are empty, zero, `false` or `null`.
-/

namespace Pseudocode

def Json.isSet : Json → Bool
  | null => false
  | boolean b => b
  | integer n => n != 0
  | number x => !(x == 0.0)
  | text s => !s.isEmpty
  | array items => !items.isEmpty
  | object fields => !fields.isEmpty

structure Settings where
  comment : Json := .text defaultComment
  limit : Json := .integer 1000
  showVariables : Json := .boolean true
  debugMode : Json := .boolean false
  verbose : Json := .boolean false

/-- What is wrong with the JSON value of a settings file. -/
inductive SettingsFault where
  | notObject
  | unknown (keys : List String)
  | badLimit

namespace Settings

def keys : List String :=
  ["comment_char", "max_repeat_iterations", "show_variables", "debug_mode", "verbose"]

/-- Whether a file may set a value for the limit: a positive whole number, or `true`. -/
def isLimit : Json → Bool
  | .integer n => 1 ≤ n
  | .boolean b => b
  | _ => false

/-- The settings that a JSON value describes; settings that it leaves out are the usual ones. -/
def ofJson (value : Json) : Except SettingsFault Settings :=
  match value with
  | .object fields =>
      let usual : Settings := {}
      let unknown := (fields.map (·.1)).filter fun key => !keys.contains key
      if unknown.isEmpty then
        let get (key : String) (otherwise : Json) : Json := (fields.lookup key).getD otherwise
        let limit := get "max_repeat_iterations" usual.limit
        if isLimit limit then
          .ok
            { comment := get "comment_char" usual.comment
              limit
              showVariables := get "show_variables" usual.showVariables
              debugMode := get "debug_mode" usual.debugMode
              verbose := get "verbose" usual.verbose }
        else .error .badLimit
      else .error (.unknown (unknown.mergeSort fun a b => !decide (b < a)))
  | _ => .error .notObject

def toJson (settings : Settings) : Json :=
  .object
    [("comment_char", settings.comment), ("max_repeat_iterations", settings.limit),
      ("show_variables", settings.showVariables), ("debug_mode", settings.debugMode),
      ("verbose", settings.verbose)]

def render (settings : Settings) : String := settings.toJson.render

/-- The comment mark: a text, or none when the setting is not set. Any other value is no mark. -/
def commentMark? (settings : Settings) : Option String :=
  match settings.comment with
  | .text s => some s
  | value => if value.isSet then none else some ""

/-- The limit on `REPEAT` loops. A value that is no number is none. -/
def repeatLimit? (settings : Settings) : Option RepeatLimit :=
  match settings.limit with
  | .integer n => some (.atMost n)
  | .boolean true => some .affirmed
  | _ => none

/-- The least weight of notes that are wanted: all of them in debug mode, summaries when much is to
be said, and else warnings only. -/
def journalLevel (settings : Settings) : Level :=
  if settings.debugMode.isSet then .debug
  else if settings.verbose.isSet then .info
  else .warning

end Settings

end Pseudocode
