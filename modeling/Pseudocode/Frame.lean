import Pseudocode.Fault
import Pseudocode.Source.Statement

namespace Pseudocode

/-- A conditional that was entered: where it was opened, whether its condition held, and whether
its `ELSE` part was entered. -/
structure IfFrame where
  openedAt : Nat
  wasTrue : Bool := false
  elseEntered : Bool := false

/-- A loop that was entered. A counting loop keeps its variable and its bounds, a `WHILE` loop its
condition, and a `REPEAT` loop the number of times its condition was reached. -/
inductive LoopFrame where
  | counting (openedAt : Nat) (name : String) (start stop : Float)
  | whileLoop (openedAt : Nat) (condition : String)
  | repeatLoop (openedAt : Nat) (count : Nat)

namespace LoopFrame

def openedAt : LoopFrame → Nat
  | counting i _ _ _ => i
  | whileLoop i _ => i
  | repeatLoop i _ => i

def construct : LoopFrame → Construct
  | counting _ _ _ _ => .forLoop
  | whileLoop _ _ => .whileLoop
  | repeatLoop _ _ => .repeatLoop

end LoopFrame

/-- A frame of any of the three stacks. A block is known by the line that opened it. -/
inductive Frame where
  | block (openedAt : Nat)
  | conditional (frame : IfFrame)
  | loop (frame : LoopFrame)

namespace Frame

def openedAt : Frame → Nat
  | block i => i
  | conditional frame => frame.openedAt
  | loop frame => frame.openedAt

def construct : Frame → Construct
  | block _ => .block
  | conditional _ => .conditional
  | loop frame => frame.construct

end Frame

inductive StackName where
  | block
  | conditional
  | loop
deriving DecidableEq

def StackName.name : StackName → String
  | block => "block"
  | conditional => "if"
  | loop => "loop"

def StackName.underflow (stack : StackName) : String := stack.name ++ " stack underflow"

def Frame.stack : Frame → StackName
  | block _ => .block
  | conditional _ => .conditional
  | loop _ => .loop

/-- What is open: three stacks, each with its innermost frame first. -/
structure Nesting where
  blocks : List Nat := []
  conditionals : List IfFrame := []
  loops : List LoopFrame := []

namespace Nesting

def frames (nesting : Nesting) : StackName → List Frame
  | .block => nesting.blocks.map Frame.block
  | .conditional => nesting.conditionals.map Frame.conditional
  | .loop => nesting.loops.map Frame.loop

def push (nesting : Nesting) : Frame → Nesting
  | .block i => { nesting with blocks := i :: nesting.blocks }
  | .conditional frame => { nesting with conditionals := frame :: nesting.conditionals }
  | .loop frame => { nesting with loops := frame :: nesting.loops }

def dropTop (nesting : Nesting) : StackName → Nesting
  | .block => { nesting with blocks := nesting.blocks.tail }
  | .conditional => { nesting with conditionals := nesting.conditionals.tail }
  | .loop => { nesting with loops := nesting.loops.tail }

def pop? (nesting : Nesting) (stack : StackName) : Option (Frame × Nesting) :=
  (nesting.frames stack).head?.map fun frame => (frame, nesting.dropTop stack)

def tops (nesting : Nesting) : List Frame :=
  (nesting.blocks.head?.map Frame.block).toList ++
    (nesting.conditionals.head?.map Frame.conditional).toList ++
    (nesting.loops.head?.map Frame.loop).toList

/-- Of two frames the one that was opened at a later line; of two at one line the first. -/
def later (a b : Frame) : Frame := if a.openedAt < b.openedAt then b else a

def innermost (nesting : Nesting) : Option Frame :=
  match nesting.tops with
  | [] => none
  | frame :: rest => some (rest.foldl later frame)

end Nesting

end Pseudocode
