import Pseudocode.Cli.Folder
import Pseudocode.Decimal.Reading
import Pseudocode.Machine.Basic

namespace Pseudocode.Cli

inductive Crash where
  | file (fault : FileFault)
  /-- A whole number in a settings file has too many digits. -/
  | tooManyDigits (count : Nat)
  /-- The comment mark in the settings is no text. -/
  | commentMark
  /-- The limit in the settings is no number, and an iteration was to be counted. -/
  | repeatLimit
  | breakpoint
  /-- A run met a trouble that is no fault of its program. -/
  | trouble (trouble : Trouble)

def Crash.message : Crash → String
  | file fault => fault.message
  | tooManyDigits count =>
      "Exceeds the limit (" ++ Decimal.digitsOf Text.integerDigits ++
        " digits) for integer string conversion: value has " ++ Decimal.digitsOf count ++
        " digits; use sys.set_int_max_str_digits() to increase the limit"
  | commentMark => "the comment mark is no text"
  | repeatLimit => "the limit on iterations is no number"
  | breakpoint => "a breakpoint has no line"
  | trouble (.underflow stack) => stack.underflow
  | trouble _ => "the run left its program"

/-- How a command ends. It stays unfinished when its program does not end within the statements that
it was given. -/
inductive Status where
  | exit (code : Nat)
  | crash (crash : Crash)
  | unfinished

/-- What a command leaves behind: what it printed, what it complained about or wrote into the
journal, the files, and how it ended. -/
structure Report where
  out : String := ""
  err : String := ""
  folder : Folder
  status : Status

end Pseudocode.Cli
