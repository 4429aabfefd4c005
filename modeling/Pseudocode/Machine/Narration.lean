import Pseudocode.Journal
import Pseudocode.Machine.Run
import Pseudocode.Outline

namespace Pseudocode

def lineNumber (i : Nat) : String := Decimal.digitsOf (i + 1)

def splitNotes (source : String) : List Note :=
  if source.isEmpty then []
  else
    [.debug .lines
      ("Split source into " ++ Decimal.digitsOf (Line.ofSource source).length ++ " lines")]

def ignoredNote (channel : Channel) (i : Nat) (raw : String) : Note :=
  ⟨.warning, channel,
    "Ignoring unrecognised statement at line " ++ lineNumber i ++ ": '" ++ raw ++ "'"⟩

def Expr.notes (store : Store) (expression : String) : List Note :=
  match value store expression with
  | .ok v => [.debug .expressions ("Expression '" ++ expression ++ "' -> " ++ v.render)]
  | .error problem =>
      [.debug .expressions ("Expression '" ++ expression ++ "' failed: " ++ problem.message)]

def Condition.notes (store : Store) (source : String) : List Note :=
  match read source with
  | .error _ => []
  | .ok condition =>
      match condition.holds store with
      | .error _ => []
      | .ok result =>
          [.debug .conditions
            ("Condition '" ++ condition.text ++ "': " ++ (operand store condition.left).render ++
              " " ++ condition.relation ++ " " ++ (operand store condition.right).render ++
              " -> " ++ (if result then "True" else "False"))]

def Store.notes (store : Store) (name : String) (value : Value) : List Note :=
  match (assign name value).run store with
  | .error _ _ => []
  | .ok _ _ =>
      let key := normalize name
      match store.find? key with
      | none =>
          [.debug .bindings
            ("Created variable '" ++ key ++ "' of type " ++ value.kind.name ++ " with value " ++
              value.render)]
      | some _ => [.debug .bindings ("Assigned " ++ value.render ++ " to '" ++ key ++ "'")]

def Frame.note (frame : Frame) (verb : String) (depth : Nat) : Note :=
  .debug .nesting
    ("[" ++ frame.stack.name ++ "] " ++ verb ++ " " ++ frame.construct.opener ++
      " opened at line " ++ lineNumber frame.openedAt ++ " (depth " ++ Decimal.digitsOf depth ++
      ")")

namespace Nesting

def pushNote (nesting : Nesting) (frame : Frame) : Note :=
  frame.note "push" ((nesting.frames frame.stack).length + 1)

def popNotes (nesting : Nesting) (stack : StackName) : List Note :=
  match nesting.frames stack with
  | [] => []
  | frame :: rest => [frame.note "pop" rest.length]

end Nesting

namespace Machine

def note (text : String) : Note := .debug .machine text

/-- The notes on lines without a known statement among those that are passed over. -/
def skipNotes (i : Nat) : Program → List Note
  | [] => []
  | line :: rest =>
      match line.content with
      | .unknown => ignoredNote .machine i line.raw :: skipNotes (i + 1) rest
      | .blank => skipNotes (i + 1) rest
      | _ => []

def finishNote (executed : Nat) : Note :=
  note ("Program finished after " ++ Decimal.digitsOf executed ++ " statements")

def advanceNotes (m : Machine) : List Note :=
  let finish :=
    match m.advance with
    | .next m => if m.finished then [finishNote m.executed] else []
    | .failed _ _ => []
  skipNotes m.cursor (m.program.drop m.cursor) ++ finish

def ifNotes (m : Machine) (condition : String) : List Note :=
  let test := Condition.notes m.store condition
  match Condition.evaluate m.store condition with
  | .error _ => test
  | .ok holds =>
      let frame : Frame := .conditional ⟨m.cursor, holds, false⟩
      let entered := test ++ [m.nesting.pushNote frame]
      if holds then entered
      else
        match m.elseOrEndIf with
        | none => entered ++ [note "IF without matching ENDIF, skipping to end of input"]
        | some line =>
            if m.program.kindAt line = some .elseMark then
              entered ++ [note ("IF false, entering ELSE at line " ++ lineNumber line)]
            else
              entered ++
                [note ("IF false, no ELSE, leaving at ENDIF line " ++ lineNumber line)] ++
                (m.nesting.push frame).popNotes .conditional

def elseNotes (m : Machine) : List Note :=
  match m.nesting.conditionals with
  | [] => []
  | frame :: _ =>
      if frame.elseEntered || !frame.wasTrue then []
      else
        let left := if m.matchingEndIf.isSome then m.nesting.popNotes .conditional else []
        note "Skipping ELSE block" :: left

def forNotes (m : Machine) (name start stop : String) : List Note :=
  let first := Expr.notes m.store start
  match evaluateBound m.store start with
  | .error _ => first
  | .ok x =>
      let second := Expr.notes m.store stop
      match evaluateBound m.store stop with
      | .error _ => first ++ second
      | .ok y =>
          let assigned := Store.notes m.store name (.number x)
          let entered :=
            match (Store.assign name (.number x)).run m.store with
            | .error _ _ => []
            | .ok _ _ => [m.nesting.pushNote (.loop (.counting m.cursor name x y))]
          first ++ second ++ assigned ++ entered

def closeForNotes (m : Machine) (openedAt : Nat) (name : String) (stop : Float) : List Note :=
  match m.store.lookup name with
  | some (.number x) =>
      if x < stop then
        Store.notes m.store name (.number (x + 1.0)) ++
          [note
            ("FOR " ++ name ++ " = " ++ Decimal.floating (x + 1.0) ++ ", re-entering at line " ++
              lineNumber (openedAt + 1))]
      else m.nesting.popNotes .loop
  | _ => m.nesting.popNotes .loop

def endNotes (m : Machine) : List Note :=
  match m.nesting.loops, m.nesting.blocks with
  | .counting openedAt name _ stop :: _, [] => m.closeForNotes openedAt name stop
  | .counting openedAt name _ stop :: _, block :: _ =>
      if block < openedAt then m.closeForNotes openedAt name stop else m.nesting.popNotes .block
  | _, _ => m.nesting.popNotes .block

def whileNotes (m : Machine) (condition : String) : List Note :=
  let test := Condition.notes m.store condition
  match Condition.evaluate m.store condition with
  | .error _ => test
  | .ok true => test ++ [m.nesting.pushNote (.loop (.whileLoop m.cursor condition))]
  | .ok false => test ++ [note "WHILE condition false, skipping loop body"]

def endWhileNotes (m : Machine) : List Note :=
  match m.nesting.loops with
  | .whileLoop _ condition :: _ =>
      m.nesting.popNotes .loop ++ Condition.notes m.store condition
  | _ => []

def repeatNotes (m : Machine) : List Note :=
  let fresh := [m.nesting.pushNote (.loop (.repeatLoop m.cursor 0))]
  match m.nesting.loops with
  | .repeatLoop openedAt count :: _ =>
      if openedAt = m.cursor then
        [note ("REPEAT iteration " ++ Decimal.digitsOf (count + 1))]
      else fresh
  | _ => fresh

def untilNotes (m : Machine) (condition : String) : List Note :=
  match m.nesting.loops with
  | .repeatLoop _ count :: _ =>
      if m.limit.bound < count + 1 then []
      else
        let test := Condition.notes m.store condition
        match Condition.evaluate m.store condition with
        | .ok true => test ++ m.nesting.popNotes .loop
        | _ => test
  | _ => []

def execNotes (m : Machine) : Statement → List Note
  | .block => [m.nesting.pushNote (.block m.cursor)]
  | .output text => [note ("OUTPUT: " ++ outputText m.store text)]
  | .assign name expression =>
      let assigned :=
        match Expr.value m.store expression with
        | .ok value => Store.notes m.store name value
        | .error _ => []
      Expr.notes m.store expression ++ assigned
  | .conditional condition => m.ifNotes condition
  | .elseMark => m.elseNotes
  | .endIf => m.nesting.popNotes .conditional
  | .forLoop name start stop => m.forNotes name start stop
  | .endMark => m.endNotes
  | .whileLoop condition => m.whileNotes condition
  | .endWhile => m.endWhileNotes
  | .repeatLoop => m.repeatNotes
  | .untilMark condition => m.untilNotes condition

def stepNotes (m : Machine) : List Note :=
  if m.finished then []
  else
    match m.program[m.cursor]? with
    | none => []
    | some line =>
        match line.content with
        | .statement s =>
            let after :=
              match m.exec s with
              | .next m => m.count.advanceNotes
              | .failed _ _ => []
            note ("Line " ++ lineNumber m.cursor ++ ": " ++ s.kind.describe line.raw) ::
              (m.execNotes s ++ after)
        | _ => []

/-- The notes on loading a program. A machine starts out with an empty one. -/
def loadNotes (source : String) (program : Program) : List Note :=
  finishNote 0 :: (splitNotes source ++ advanceNotes { program, limit := defaultLimit })

/-- Carry out at most `steps` statements, keep notes and let a listener hear what they tell. -/
def runNoting {σ : Type} (hear : σ → String → σ) :
    (steps : Nat) → Machine → Array Note → (heard : σ) → Machine × Ending × Array Note × σ
  | 0, m, notes, heard => (m, if m.finished then .done else .unfinished, notes, heard)
  | steps + 1, m, notes, heard =>
      if m.finished then (m, .done, notes, heard)
      else
        let notes := notes ++ m.stepNotes
        let heard := m.told.foldl hear heard
        match m.step with
        | .next m => runNoting hear steps m notes heard
        | .failed trouble m => (m, .failed trouble, notes, heard)

end Machine

def Program.faultNotes (source : String) (program : Program) : List Note :=
  let ignored :=
    (program.zipIdx.filter fun entry => entry.1.content matches .unknown).map fun entry =>
      ignoredNote .statements entry.2 entry.1.raw
  splitNotes source ++ ignored ++
    [.debug .machine
      ("Validation found " ++ Decimal.digitsOf program.faults.length ++ " problems")]

end Pseudocode
