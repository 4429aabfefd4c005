import Pseudocode.Condition
import Pseudocode.Expr.Eval
import Pseudocode.Machine.Basic

/-!
One statement of a run. A statement that fails leaves the state as it was, with two exceptions:
`ENDWHILE` has left its loop before it tests the condition, and `UNTIL` has counted.
-/

namespace Pseudocode.Machine

open Pseudocode

def fail (m : Machine) (fault : Fault) : Outcome :=
  .failed (.fault (fault.atLine m.cursor)) m

def refuse (m : Machine) (kind : FaultKind) (detail : String) : Outcome :=
  m.fail { kind, detail }

def goTo (m : Machine) (line : Nat) : Outcome := .next { m with cursor := line }

def goOn (m : Machine) : Outcome := m.goTo (m.cursor + 1)

/-- Go on behind a line that was searched for, or at the end of the program if there is none. -/
def goBehind (m : Machine) (target : Option Nat) : Outcome :=
  match target with
  | some line => m.goTo (line + 1)
  | none => m.goTo m.program.length

def withConditionals (m : Machine) (frames : List IfFrame) : Machine :=
  { m with nesting := { m.nesting with conditionals := frames } }

def withLoops (m : Machine) (frames : List LoopFrame) : Machine :=
  { m with nesting := { m.nesting with loops := frames } }

def withBlocks (m : Machine) (blocks : List Nat) : Machine :=
  { m with nesting := { m.nesting with blocks } }

/-- Take the innermost frame from a stack and go on without it. -/
def popThen (m : Machine) (stack : StackName) (next : Machine → Outcome) : Outcome :=
  match m.nesting.pop? stack with
  | some (_, nesting) => next { m with nesting }
  | none => .failed (.underflow stack) m

/-- Assign a value to a variable and go on with the store that this leaves. -/
def assignThen (m : Machine) (name : String) (value : Value) (next : Machine → Outcome) :
    Outcome :=
  match (Store.assign name value).run m.store with
  | .ok _ store => next { m with store }
  | .error fault store => fail { m with store } fault

def execBegin (m : Machine) : Outcome := (m.withBlocks (m.cursor :: m.nesting.blocks)).goOn

/-- The text that `OUTPUT` writes: the value of a variable, a text without its quotes, or the text
itself. -/
def outputText (store : Store) (text : String) : String :=
  match if text.isEmpty then none else store.lookup text with
  | some value => value.render
  | none => (Expr.unquote? text).getD text

def execOutput (m : Machine) (text : String) : Outcome :=
  goOn { m with output := m.output.push (outputText m.store text) }

def execAssign (m : Machine) (name expression : String) : Outcome :=
  match Expr.evaluate m.store expression with
  | .error fault => m.fail fault
  | .ok value => m.assignThen name value goOn

/-- The line that a false conditional goes on behind: its `ELSE` if it has one, else its
`ENDIF`. -/
def elseOrEndIf (m : Machine) : Option Nat :=
  m.program.scan m.cursor (.opens .conditional) .endIf (some .elseMark)

/-- `IF` opens a conditional. A false one goes on behind its `ELSE`, or else is left. -/
def execIf (m : Machine) (condition : String) : Outcome :=
  match Condition.evaluate m.store condition with
  | .error fault => m.fail fault
  | .ok holds =>
      let opened := m.withConditionals (⟨m.cursor, holds, false⟩ :: m.nesting.conditionals)
      if holds then opened.goOn
      else
        match m.elseOrEndIf with
        | none => opened.goBehind none
        | some line =>
            if m.program.kindAt line = some .elseMark then
              (m.withConditionals (⟨m.cursor, holds, true⟩ :: m.nesting.conditionals)).goTo
                (line + 1)
            else opened.popThen .conditional (goTo · (line + 1))

def matchingEndIf (m : Machine) : Option Nat :=
  m.program.scan m.cursor (.opens .conditional) .endIf none

def execElse (m : Machine) : Outcome :=
  match m.nesting.conditionals.head? with
  | none => m.refuse .unexpectedElse "Unexpected ELSE"
  | some frame =>
      if frame.elseEntered then
        m.refuse .unexpectedElse
          ("Unexpected ELSE: IF at line " ++ Decimal.digitsOf (frame.openedAt + 1) ++
            " already has an ELSE")
      else if !frame.wasTrue then
        (m.withConditionals
          ({ frame with elseEntered := true } :: m.nesting.conditionals.tail)).goOn
      else
        match m.matchingEndIf with
        | none => m.goBehind none
        | some line => m.popThen .conditional (goTo · (line + 1))

def execEndIf (m : Machine) : Outcome :=
  if m.nesting.conditionals.isEmpty then m.refuse .unexpectedEndif "Unexpected ENDIF"
  else m.popThen .conditional goOn

def evaluateBound (store : Store) (expression : String) : Except Fault Float := do
  match ← Expr.evaluate store expression with
  | .number x => .ok x
  | _ =>
      .error
        { kind := .invalidExpression
          detail := "FOR bound must be a number: " ++ expression }

/-- `FOR` evaluates both bounds, gives the variable the first and opens a loop. -/
def execFor (m : Machine) (name start stop : String) : Outcome :=
  let bounds := do
    let first ← evaluateBound m.store start
    let last ← evaluateBound m.store stop
    pure (first, last)
  match bounds with
  | .error fault => m.fail fault
  | .ok (first, last) =>
      m.assignThen name (.number first) fun m =>
        (m.withLoops (.counting m.cursor name first last :: m.nesting.loops)).goOn

/-- The end of a counting loop goes back behind its header with the next value of the variable, or
leaves the loop when the last value is reached. -/
def closeFor (m : Machine) (openedAt : Nat) (name : String) (stop : Float) : Outcome :=
  match m.store.lookup name with
  | some (.number x) =>
      if x < stop then m.assignThen name (.number (x + 1.0)) (goTo · (openedAt + 1))
      else m.popThen .loop goOn
  | _ => m.popThen .loop goOn

def execEnd (m : Machine) : Outcome :=
  match m.nesting.loops.head?, m.nesting.blocks.head? with
  | some (.counting openedAt name _ stop), none => m.closeFor openedAt name stop
  | some (.counting openedAt name _ stop), some block =>
      if block < openedAt then m.closeFor openedAt name stop else m.popThen .block goOn
  | _, some _ => m.popThen .block goOn
  | _, none => m.refuse .unexpectedEnd "Unexpected END"

def matchingEndWhile (m : Machine) : Option Nat :=
  m.program.scan m.cursor (.opens .whileLoop) .endWhile none

def execWhile (m : Machine) (condition : String) : Outcome :=
  match Condition.evaluate m.store condition with
  | .error fault => m.fail fault
  | .ok true => (m.withLoops (.whileLoop m.cursor condition :: m.nesting.loops)).goOn
  | .ok false => m.goBehind m.matchingEndWhile

/-- `ENDWHILE` leaves the loop and goes back to its header if the condition holds again. -/
def execEndWhile (m : Machine) : Outcome :=
  match m.nesting.loops.head? with
  | some (.whileLoop openedAt condition) =>
      m.popThen .loop fun m =>
        match Condition.evaluate m.store condition with
        | .error fault => m.fail fault
        | .ok true => m.goTo openedAt
        | .ok false => m.goOn
  | _ => m.refuse .unexpectedEndwhile "Unexpected ENDWHILE"

def execRepeat (m : Machine) : Outcome :=
  let fresh := (m.withLoops (.repeatLoop m.cursor 0 :: m.nesting.loops)).goOn
  match m.nesting.loops.head? with
  | some (.repeatLoop openedAt _) => if openedAt = m.cursor then m.goOn else fresh
  | _ => fresh

/-- `UNTIL` counts the iteration and leaves the loop if its condition holds; otherwise the loop
begins again with its frame in place. -/
def execUntil (m : Machine) (condition : String) : Outcome :=
  match m.nesting.loops.head? with
  | some (.repeatLoop openedAt count) =>
      let counted := m.withLoops (.repeatLoop openedAt (count + 1) :: m.nesting.loops.tail)
      if m.limit.bound < count + 1 then
        counted.refuse .runawayLoop
          ("Potential infinite loop detected in REPEAT-UNTIL (more than " ++ m.limit.shown ++
            " iterations)")
      else
        match Condition.evaluate m.store condition with
        | .error fault => counted.fail fault
        | .ok true => counted.popThen .loop goOn
        | .ok false => counted.goTo openedAt
  | _ => m.refuse .unexpectedUntil "Unexpected UNTIL"

def exec (m : Machine) : Statement → Outcome
  | .block => m.execBegin
  | .output text => m.execOutput text
  | .assign name expression => m.execAssign name expression
  | .conditional condition => m.execIf condition
  | .elseMark => m.execElse
  | .endIf => m.execEndIf
  | .forLoop name start stop => m.execFor name start stop
  | .endMark => m.execEnd
  | .whileLoop condition => m.execWhile condition
  | .endWhile => m.execEndWhile
  | .repeatLoop => m.execRepeat
  | .untilMark condition => m.execUntil condition

def count (m : Machine) : Machine := { m with executed := m.executed + 1 }

/-- Carry out the statement at the cursor and move on to the next one. A finished run stays as it
is. -/
def step (m : Machine) : Outcome :=
  if m.finished then .next m
  else
    match m.program[m.cursor]? with
    | none => .failed .pastEnd m
    | some line =>
        match line.content with
        | .statement s => (m.exec s).andThen fun m => m.count.advance
        | .malformed _ fault => .failed (.fault fault) m
        | .blank => .failed .noStatement m
        | .unknown => .failed .noStatement m

end Pseudocode.Machine
