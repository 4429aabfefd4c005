import Pseudocode.Source.Statement

namespace Pseudocode

inductive Content where
  | blank
  | unknown
  | malformed (kind : StatementKind) (fault : Fault)
  | statement (s : Statement)
deriving DecidableEq

def Content.kind? : Content → Option StatementKind
  | blank => none
  | unknown => none
  | malformed kind _ => some kind
  | statement s => some s.kind

structure CodeLine where
  raw : String
  content : Content

def Line.content (line : Line) (comment : String) : Content :=
  match line.kind comment with
  | .blank => .blank
  | .unknown => .unknown
  | .statement kind =>
      match Statement.read kind line with
      | .ok s => .statement s
      | .error fault => .malformed kind (fault.atLine line.index)

abbrev Program := List CodeLine

namespace Program

def ofLines (comment : String) (lines : List Line) : Program :=
  lines.map fun line => ⟨line.raw, line.content comment⟩

def ofSource (comment source : String) : Program := ofLines comment (Line.ofSource source)

def kindAt (program : Program) (i : Nat) : Option StatementKind :=
  program[i]?.bind fun line => line.content.kind?

def leadingGap : Program → Nat
  | [] => 0
  | line :: rest =>
      match line.content.kind? with
      | some _ => 0
      | none => leadingGap rest + 1

/-- The first line from a given one on that holds a statement, or the end of the program. -/
def nextStatement (program : Program) (i : Nat) : Nat := i + leadingGap (program.drop i)

/-- Search lines for the closer that matches an opener above them, or for a mark at the same
depth, and count from `i`. Only the one kind of opener and its closer are taken for nesting. -/
def scanFrom (opener closer : StatementKind) (mark : Option StatementKind) :
    (depth i : Nat) → Program → Option Nat
  | _, _, [] => none
  | depth, i, line :: rest =>
      match line.content.kind? with
      | none => scanFrom opener closer mark depth (i + 1) rest
      | some kind =>
          if kind = opener then scanFrom opener closer mark (depth + 1) (i + 1) rest
          else if kind = closer then
            match depth with
            | 0 => some i
            | depth + 1 => scanFrom opener closer mark depth (i + 1) rest
          else if depth = 0 ∧ some kind = mark then some i
          else scanFrom opener closer mark depth (i + 1) rest

def scan (program : Program) (i : Nat) (opener closer : StatementKind)
    (mark : Option StatementKind) : Option Nat :=
  scanFrom opener closer mark 0 (i + 1) (program.drop (i + 1))

end Program

end Pseudocode
