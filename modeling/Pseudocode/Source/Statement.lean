import Pseudocode.Fault
import Pseudocode.Store
import Pseudocode.Text.Blank
import Pseudocode.Text.Case

/-!
Source lines in two views: as written, without the blanks at the ends, and normalized, with single
spaces and in upper case. Keywords are read off the second view, everything else off the first.
-/

namespace Pseudocode

open Text

structure Line where
  index : Nat
  raw : String
  normalized : String

namespace Line

def ofChars (index : Nat) (cs : List Char) : Line :=
  let raw := trim cs
  ⟨index, String.ofList raw, String.ofList (upper (collapse raw))⟩

def ofSource (source : String) : List Line :=
  (lines source.toList).mapIdx ofChars

def keyword (line : Line) : String := String.ofList (firstWord (trimLeft line.normalized.toList))

def argument (line : Line) : String :=
  String.ofList (trim (afterWord (trimLeft line.raw.toList)))

/-- Whether the line is empty or a comment. With an empty comment mark there are no comments. -/
def isBlank (line : Line) (comment : String) : Bool :=
  line.raw.isEmpty || (!comment.isEmpty && comment.toList.isPrefixOf line.raw.toList)

end Line

/-- The constructs that are opened by one line and closed by a later one. -/
inductive Construct where
  | block
  | conditional
  | forLoop
  | whileLoop
  | repeatLoop
deriving DecidableEq

namespace Construct

def opener : Construct → String
  | block => "BEGIN"
  | conditional => "IF"
  | forLoop => "FOR"
  | whileLoop => "WHILE"
  | repeatLoop => "REPEAT"

def closer : Construct → String
  | block => "END"
  | conditional => "ENDIF"
  | forLoop => "END"
  | whileLoop => "ENDWHILE"
  | repeatLoop => "UNTIL"

end Construct

inductive StatementKind where
  | output
  | assign
  | opens (construct : Construct)
  | elseMark
  | endMark
  | endIf
  | endWhile
  | untilMark
deriving DecidableEq

def StatementKind.name : StatementKind → String
  | output => "OUTPUT"
  | assign => "ASSIGN"
  | opens construct => construct.opener
  | elseMark => "ELSE"
  | endMark => "END"
  | endIf => "ENDIF"
  | endWhile => "ENDWHILE"
  | untilMark => "UNTIL"

/-- What a line holds: nothing, a statement of some kind, or nothing that is known. -/
inductive LineKind where
  | blank
  | unknown
  | statement (kind : StatementKind)
deriving DecidableEq

def LineKind.name : LineKind → String
  | blank => "BLANK"
  | unknown => "UNKNOWN"
  | statement kind => kind.name

def headKind? : String → Option StatementKind
  | "BEGIN" => some (.opens .block)
  | "OUTPUT" => some .output
  | "DISPLAY" => some .output
  | "SHOW" => some .output
  | "IF" => some (.opens .conditional)
  | "WHILE" => some (.opens .whileLoop)
  | "UNTIL" => some .untilMark
  | "FOR" => some (.opens .forLoop)
  | _ => none

/-- The kind of statement that a keyword announces on a line without an equals sign. -/
def bareKind? : String → Option StatementKind
  | "END" => some .endMark
  | "ELSE" => some .elseMark
  | "ENDIF" => some .endIf
  | "ENDWHILE" => some .endWhile
  | "REPEAT" => some (.opens .repeatLoop)
  | _ => none

def Line.kind (line : Line) (comment : String) : LineKind :=
  if line.isBlank comment then .blank
  else
    match headKind? line.keyword with
    | some kind => .statement kind
    | none =>
        if line.raw.toList.contains '=' then .statement .assign
        else
          match bareKind? line.keyword with
          | some kind => .statement kind
          | none => .unknown

inductive Statement where
  | block
  | output (text : String)
  | assign (name expression : String)
  | conditional (condition : String)
  | elseMark
  | endIf
  | forLoop (name start stop : String)
  | endMark
  | whileLoop (condition : String)
  | endWhile
  | repeatLoop
  | untilMark (condition : String)
deriving DecidableEq

def Statement.kind : Statement → StatementKind
  | block => .opens .block
  | output _ => .output
  | assign _ _ => .assign
  | conditional _ => .opens .conditional
  | elseMark => .elseMark
  | endIf => .endIf
  | forLoop _ _ _ => .opens .forLoop
  | endMark => .endMark
  | whileLoop _ => .opens .whileLoop
  | endWhile => .endWhile
  | repeatLoop => .opens .repeatLoop
  | untilMark _ => .untilMark

def StatementKind.describe (kind : StatementKind) (raw : String) : String :=
  "(" ++ kind.name ++ ": '" ++ raw ++ "')"

def reservedWords : List String :=
  ["BEGIN", "END", "OUTPUT", "IF", "ELSE", "ENDIF", "FOR", "WHILE", "ENDWHILE", "REPEAT", "UNTIL",
    "DISPLAY", "SHOW", "THEN", "TO", "DO", "TRUE", "FALSE"]

namespace Statement

def readName (cs : List Char) : Except Fault String :=
  let name := String.ofList (upper cs)
  if Store.isIdentifier cs && !reservedWords.contains name then .ok name
  else
    .error
      { kind := .invalidIdentifier
        detail := "Invalid variable name: " ++ String.ofList cs }

/-- The parts of an assignment: what stands before and after the first equals sign. A second
equals sign may not follow the first at once. -/
def cutAssignment (cs : List Char) : Option (List Char × List Char) :=
  match cs.dropWhile (· != '=') with
  | '=' :: '=' :: _ => none
  | '=' :: rest => some (trimRight (cs.takeWhile (· != '=')), trim rest)
  | _ => none

def readAssignment (raw : String) : Except Fault Statement :=
  match cutAssignment raw.toList with
  | none => .error { kind := .invalidExpression, detail := "Invalid assignment: " ++ raw }
  | some (left, right) => do
      let name ← readName left
      if right.isEmpty then
        .error { kind := .invalidExpression, detail := "Missing expression for '" ++ name ++ "'" }
      else .ok (.assign name (String.ofList right))

def isWord (keyword : String) (word : List Char) : Bool :=
  word.map Char.toUpper == keyword.toList

/-- A text without the keyword that may stand as its last word, after some other word. -/
def dropLastWord (keyword : String) (cs : List Char) : List Char :=
  let word := (firstWord cs.reverse).reverse
  let before := trimRight ((afterWord cs.reverse).reverse)
  if isWord keyword word && !before.isEmpty then before else cs

/-- What follows the first word of a header; a header has to have something there. -/
def headerBody (header raw : String) : Except Fault (List Char) :=
  match trimLeft (afterWord raw.toList) with
  | [] =>
      .error
        { kind := .invalidExpression
          detail := "Invalid " ++ header ++ " statement: " ++ raw }
  | body => .ok body

/-- Cut the header of a counting loop at the equals sign behind its variable, which is one word.
The sign may stand inside that word, but not at its start. -/
def cutVariable (body : List Char) : Option (List Char × List Char) :=
  match firstWord body, afterWord body with
  | c :: word, after =>
      match word.dropWhile (· != '=') with
      | '=' :: rest => some (c :: word.takeWhile (· != '='), rest ++ after)
      | _ =>
          match trimLeft after with
          | '=' :: rest => some (c :: word, rest)
          | _ => none
  | [], _ => none

/-- Cut a text at its first word `TO` that has a word after it. `before` holds what was passed,
last character first, and `apart` tells whether a blank was the last of it. -/
def cutAtTo (before : List Char) (apart : Bool) : List Char → Option (List Char × List Char)
  | [] => none
  | c :: rest =>
      if apart && isWord "TO" (firstWord (c :: rest)) && !(afterWord (c :: rest)).isEmpty then
        some (trimRight before.reverse, trimLeft (afterWord (c :: rest)))
      else cutAtTo (c :: before) (isBlank c) rest

/-- The two bounds of a counting loop. The first word `TO` divides them that is neither the first
nor the last word; failing that, a blank counts as the start if `TO` comes first, behind at least
two blanks. -/
def cutBounds (cs : List Char) : Option (List Char × List Char) :=
  match cutAtTo [] false (trimLeft cs) with
  | some bounds => some bounds
  | none =>
      match (cs.takeWhile isBlank).reverse, trimLeft cs with
      | _ :: blank :: _, body =>
          if isWord "TO" (firstWord body) && !(afterWord body).isEmpty then
            some ([blank], trimLeft (afterWord body))
          else none
      | _, _ => none

def readFor (raw : String) : Except Fault Statement := do
  let body ← headerBody "FOR" raw
  let parts := do
    let (word, rest) ← cutVariable body
    let (start, stop) ← cutBounds rest
    pure (word, start, stop)
  match parts with
  | none => .error { kind := .invalidExpression, detail := "Invalid FOR statement: " ++ raw }
  | some (word, start, stop) => do
      let name ← readName word
      .ok (.forLoop name (String.ofList start) (String.ofList (dropLastWord "DO" stop)))

/-- The statement of a given kind that a line holds, as far as the line is well formed. -/
def read (kind : StatementKind) (line : Line) : Except Fault Statement :=
  match kind with
  | .output => .ok (.output line.argument)
  | .assign => readAssignment line.raw
  | .opens .block => .ok .block
  | .opens .conditional => do
      let body ← headerBody "IF" line.raw
      .ok (.conditional (String.ofList (dropLastWord "THEN" body)))
  | .opens .forLoop => readFor line.raw
  | .opens .whileLoop => do
      let body ← headerBody "WHILE" line.raw
      .ok (.whileLoop (String.ofList (dropLastWord "DO" body)))
  | .opens .repeatLoop => .ok .repeatLoop
  | .elseMark => .ok .elseMark
  | .endMark => .ok .endMark
  | .endIf => .ok .endIf
  | .endWhile => .ok .endWhile
  | .untilMark => do
      let body ← headerBody "UNTIL" line.raw
      .ok (.untilMark (String.ofList body))

end Statement

end Pseudocode
