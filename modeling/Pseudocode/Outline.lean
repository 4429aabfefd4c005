import Pseudocode.Machine.Basic
import Pseudocode.Source.Program

namespace Pseudocode

namespace Outline

/-- The constructs that a kind of statement may close, and the fault if it closes none. -/
def closes : StatementKind → Option (List Construct × FaultKind)
  | .endMark => some ([.forLoop, .block], .unexpectedEnd)
  | .endIf => some ([.conditional], .unexpectedEndif)
  | .endWhile => some ([.whileLoop], .unexpectedEndwhile)
  | .untilMark => some ([.repeatLoop], .unexpectedUntil)
  | _ => none

/-- The constructs that are open at some line, innermost first, with the lines that opened
them. -/
abbrev OpenConstructs := List (Construct × Nat)

def misplaced (kind : FaultKind) (keyword : String) (line : Nat) : Fault :=
  { kind, detail := "Unexpected " ++ keyword, line := some (line : Int) }

/-- What a statement changes: the constructs that are open after it, and its fault if it has
one. -/
def enter (open_ : OpenConstructs) (line : Nat) (kind : StatementKind) :
    OpenConstructs × Option Fault :=
  match kind with
  | .opens construct => ((construct, line) :: open_, none)
  | .elseMark =>
      match open_ with
      | (.conditional, _) :: _ => (open_, none)
      | _ => (open_, some (misplaced .unexpectedElse kind.name line))
  | _ =>
      match closes kind with
      | none => (open_, none)
      | some (accepted, fault) =>
          match open_ with
          | (construct, i) :: rest =>
              if construct ∈ accepted then (rest, none)
              else ((construct, i) :: rest, some (misplaced fault kind.name line))
          | [] => ([], some (misplaced fault kind.name line))

/-- The faults of single lines from a line on, and the constructs that are open at the end. -/
def check (open_ : OpenConstructs) (line : Nat) : Program → List Fault × OpenConstructs
  | [] => ([], open_)
  | code :: rest =>
      match code.content with
      | .malformed _ fault =>
          let (faults, final) := check open_ (line + 1) rest
          (fault :: faults, final)
      | .statement s =>
          let (now, fault) := enter open_ line s.kind
          let (faults, final) := check now (line + 1) rest
          (fault.toList ++ faults, final)
      | .blank => check open_ (line + 1) rest
      | .unknown => check open_ (line + 1) rest

end Outline

def Program.faults (program : Program) : List Fault :=
  let (faults, left) := Outline.check [] 0 program
  faults ++ left.map fun (construct, line) => Machine.unclosed construct line

end Pseudocode
