import Pseudocode.Machine.Step

namespace Pseudocode

/-- Where a run that was given some statements ends: with the program done, with a trouble, or
with statements left to carry out. -/
inductive Ending where
  | done
  | failed (trouble : Trouble)
  | unfinished
deriving DecidableEq

namespace Machine

def runFor : (steps : Nat) → Machine → Machine × Ending
  | 0, m => (m, if m.finished then .done else .unfinished)
  | steps + 1, m =>
      if m.finished then (m, .done)
      else
        match m.step with
        | .next m => runFor steps m
        | .failed trouble m => (m, .failed trouble)

/-- What a statement tells a listener: the line that it writes, if it writes one. -/
def tells (m : Machine) : Statement → List String
  | .output text => [outputText m.store text]
  | _ => []

def told (m : Machine) : List String :=
  if m.finished then []
  else
    match m.program[m.cursor]? with
    | none => []
    | some line =>
        match line.content with
        | .statement s => m.tells s
        | _ => []

/-- Carry out at most `steps` statements and let a listener hear what they tell. -/
def runTelling {σ : Type} (hear : σ → String → σ) :
    (steps : Nat) → Machine → (heard : σ) → Machine × Ending × σ
  | 0, m, heard => (m, if m.finished then .done else .unfinished, heard)
  | steps + 1, m, heard =>
      if m.finished then (m, .done, heard)
      else
        let heard := m.told.foldl hear heard
        match m.step with
        | .next m => runTelling hear steps m heard
        | .failed trouble m => (m, .failed trouble, heard)

end Machine

end Pseudocode
