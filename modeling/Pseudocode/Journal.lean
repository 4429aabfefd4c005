namespace Pseudocode

inductive Level where
  | debug
  | info
  | warning
deriving DecidableEq

namespace Level

def name : Level → String
  | debug => "DEBUG"
  | info => "INFO"
  | warning => "WARNING"

def rank : Level → Nat
  | debug => 0
  | info => 1
  | warning => 2

end Level

inductive Channel where
  | machine
  | lines
  | statements
  | nesting
  | expressions
  | conditions
  | bindings
  | runs

def Channel.name : Channel → String
  | machine => "pseudorun.modules.InterpreterHelper"
  | lines => "pseudorun.modules.LineSplitter"
  | statements => "pseudorun.modules.Commands"
  | nesting => "pseudorun.modules.StackManager"
  | expressions => "pseudorun.modules.ExpressionHelper"
  | conditions => "pseudorun.modules.ConditionHelper"
  | bindings => "pseudorun.modules.VariableManager"
  | runs => "pseudorun.modules.ExecutionDriver"

structure Note where
  level : Level
  channel : Channel
  text : String

namespace Note

def debug (channel : Channel) (text : String) : Note := ⟨.debug, channel, text⟩

/-- A note as a line of the journal: with its weight and its part when everything is wanted, with
its weight when summaries are, and bare otherwise. -/
def render (least : Level) (note : Note) : String :=
  match least with
  | .debug => note.level.name ++ " [" ++ note.channel.name ++ "]: " ++ note.text
  | .info => note.level.name ++ ": " ++ note.text
  | .warning => note.text

end Note

def journal (least : Level) (notes : List Note) : String :=
  let kept := notes.filter fun note => least.rank ≤ note.level.rank
  String.join (kept.map fun note => note.render least ++ "\n")

end Pseudocode
