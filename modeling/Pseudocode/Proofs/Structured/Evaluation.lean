import Pseudocode.Proofs.Structured.Tree

namespace Pseudocode.Structured

open Pseudocode

/-- What an evaluation works on: the variables and the lines written so far. -/
structure Memory where
  store : Store := {}
  output : Array String := #[]

inductive Completion where
  | normal (memory : Memory)
  | fault (fault : Fault) (memory : Memory)

abbrev Behaviour := Memory → Completion → Prop

def pass : Behaviour := fun memory completion => completion = .normal memory

def write (text : String) : Behaviour := fun memory completion =>
  completion = .normal
    { memory with output := memory.output.push (Machine.outputText memory.store text) }

def assign (line : Nat) (name expression : String) : Behaviour := fun memory completion =>
  match Expr.evaluate memory.store expression with
  | .error fault => completion = .fault (fault.atLine line) memory
  | .ok value =>
      match (Store.assign name value).run memory.store with
      | .error fault _ => completion = .fault (fault.atLine line) memory
      | .ok _ store => completion = .normal { memory with store }

/-- Two behaviours, the second from where the first ends. -/
inductive Sequence (first second : Behaviour) : Behaviour where
  | both {memory middle : Memory} {completion : Completion}
      (fine : first memory (.normal middle)) (rest : second middle completion) :
      Sequence first second memory completion
  | stopped {memory middle : Memory} {fault : Fault}
      (stop : first memory (.fault fault middle)) :
      Sequence first second memory (.fault fault middle)

def branch (line : Nat) (condition : String) (yes no : Behaviour) : Behaviour :=
  fun memory completion =>
    match Condition.evaluate memory.store condition with
    | .error fault => completion = .fault (fault.atLine line) memory
    | .ok true => yes memory completion
    | .ok false => no memory completion

inductive Verdict where
  | again (memory : Memory)
  | leave
  | fault (fault : Fault)

/-- The iterations of a loop from one on, with the number of those before it. After each, the
verdict is found from the number of iterations and the memory. -/
inductive Iterations (verdict : Nat → Memory → Verdict) (body : Behaviour) : Nat → Behaviour where
  | stopped {count : Nat} {memory middle : Memory} {fault : Fault}
      (stop : body memory (.fault fault middle)) :
      Iterations verdict body count memory (.fault fault middle)
  | refused {count : Nat} {memory middle : Memory} {fault : Fault}
      (fine : body memory (.normal middle)) (refuse : verdict (count + 1) middle = .fault fault) :
      Iterations verdict body count memory (.fault fault middle)
  | left {count : Nat} {memory middle : Memory}
      (fine : body memory (.normal middle)) (leave : verdict (count + 1) middle = .leave) :
      Iterations verdict body count memory (.normal middle)
  | more {count : Nat} {memory middle next : Memory} {completion : Completion}
      (fine : body memory (.normal middle)) (again : verdict (count + 1) middle = .again next)
      (rest : Iterations verdict body (count + 1) next completion) :
      Iterations verdict body count memory completion

def whileVerdict (closer : Nat) (condition : String) (memory : Memory) : Verdict :=
  match Condition.evaluate memory.store condition with
  | .error fault => .fault (fault.atLine closer)
  | .ok true => .again memory
  | .ok false => .leave

/-- A counting loop goes on with the next number as long as its variable is below the end. -/
def forVerdict (name : String) (stop : Float) (memory : Memory) : Verdict :=
  match memory.store.lookup name with
  | some (.number x) =>
      if x < stop then
        let key := Store.normalize name
        .again
          { memory with store := memory.store.put key (.create key (.number (x + 1.0))) }
      else .leave
  | _ => .leave

/-- A `REPEAT` loop goes on until its condition holds, and not beyond the limit. -/
def untilVerdict (limit : RepeatLimit) (closer : Nat) (condition : String) (count : Nat)
    (memory : Memory) : Verdict :=
  if limit.bound < count then
    .fault
      { kind := .runawayLoop
        detail := "Potential infinite loop detected in REPEAT-UNTIL (more than " ++ limit.shown ++
          " iterations)"
        line := some (closer : Int) }
  else
    match Condition.evaluate memory.store condition with
    | .error fault => .fault (fault.atLine closer)
    | .ok true => .leave
    | .ok false => .again memory

/-- A counting loop: both bounds are evaluated, the variable is given the first, and the body is
evaluated at least once. -/
def counting (line : Nat) (name start stop : String) (body : Behaviour) : Behaviour :=
  fun memory completion =>
    match Machine.evaluateBound memory.store start with
    | .error fault => completion = .fault (fault.atLine line) memory
    | .ok first =>
        match Machine.evaluateBound memory.store stop with
        | .error fault => completion = .fault (fault.atLine line) memory
        | .ok last =>
            match (Store.assign name (.number first)).run memory.store with
            | .error fault _ => completion = .fault (fault.atLine line) memory
            | .ok _ store =>
                Iterations (fun _ => forVerdict name last) body 0 { memory with store } completion

def Tree.Evaluates (limit : RepeatLimit) : Tree → Nat → Behaviour
  | .empty, _ => pass
  | .gap _ _, _ => pass
  | .output text, _ => write text
  | .assign name expression, line => Structured.assign line name expression
  | .seq first second, line =>
      Sequence (first.Evaluates limit line) (second.Evaluates limit (line + first.lines.length))
  | .block body, line => body.Evaluates limit (line + 1)
  | .ifThen condition body, line =>
      branch line condition (body.Evaluates limit (line + 1)) pass
  | .ifElse condition body other, line =>
      branch line condition (body.Evaluates limit (line + 1))
        (other.Evaluates limit (line + 1 + body.lines.length + 1))
  | .forLoop name start stop body, line =>
      counting line name start stop (body.Evaluates limit (line + 1))
  | .whileLoop condition body, line =>
      let closer := line + 1 + body.lines.length
      branch line condition
        (Iterations (fun _ => whileVerdict closer condition) (body.Evaluates limit (line + 1)) 0)
        pass
  | .repeatLoop body condition, line =>
      let closer := line + 1 + body.lines.length
      Iterations (untilVerdict limit closer condition) (body.Evaluates limit (line + 1)) 0

end Pseudocode.Structured
