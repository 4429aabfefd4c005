import Pseudocode.Decimal.Shortest
import Pseudocode.Text.Blank
import Pseudocode.Text.Table

namespace Pseudocode.Text

/-- The number of digits that a whole number may have. -/
def integerDigits : Nat := 4300

/-- The blanks that may stand around a number: not the information separators. -/
def isNumberBlank (c : Char) : Bool := isBlank c && !(0x1C ≤ c.toNat && c.toNat < 0x20)

def groupedDigits : List Char → Option (List Nat)
  | [] => none
  | [c] => (digit? c).map ([·])
  | c :: '_' :: rest => do
      let d ← digit? c
      let ds ← groupedDigits rest
      pure (d :: ds)
  | c :: rest => do
      let d ← digit? c
      let ds ← groupedDigits rest
      pure (d :: ds)

def ofDigits (digits : List Nat) : Nat := digits.foldl (fun n d => 10 * n + d) 0

def readNat? (cs : List Char) : Option Nat := do
  let digits ← groupedDigits cs
  guard (digits.length ≤ integerDigits)
  pure (ofDigits digits)

def readInt? (s : String) : Option Int :=
  let inner := ((s.toList.dropWhile isNumberBlank).reverse.dropWhile isNumberBlank).reverse
  match inner with
  | '-' :: cs => (readNat? cs).map fun n => -(n : Int)
  | '+' :: cs => (readNat? cs).map Int.ofNat
  | cs => (readNat? cs).map Int.ofNat

end Pseudocode.Text

namespace Pseudocode.Decimal

open Pseudocode.Text

def literal? (cs : List Char) : Option (List Char × List Char) :=
  let whole := cs.takeWhile isDigit
  match whole, cs.dropWhile isDigit with
  | [], '.' :: rest =>
      match rest.takeWhile isDigit with
      | [] => none
      | fraction => some ('.' :: fraction, rest.dropWhile isDigit)
  | [], _ => none
  | _, '.' :: rest => some (whole ++ '.' :: rest.takeWhile isDigit, rest.dropWhile isDigit)
  | _, rest => some (whole, rest)

def isLiteral (cs : List Char) : Bool :=
  match literal? cs with
  | some (_, []) => true
  | _ => false

/-- The double nearest to `digits * 10 ^ exponent`. Powers far outside the range of doubles are
not computed. -/
def nearest (digits : Nat) (exponent : Int) : Float :=
  if digits == 0 then 0.0
  else if 400 < exponent then 1.0 / 0.0
  else if exponent + width digits < -400 then 0.0
  else Float.ofScientific digits (exponent < 0) exponent.natAbs

def literalValue (cs : List Char) (exponent : Int) : Float :=
  let whole := cs.takeWhile (· != '.')
  let fraction := (cs.dropWhile (· != '.')).drop 1
  nearest (ofDigits ((whole ++ fraction).filterMap digit?)) (exponent - fraction.length)

/-- The double that a number in data stands for: a literal with an optional sign and exponent, an
infinity or no number at all. -/
def read? (s : String) : Option Float :=
  let unsigned (cs : List Char) : Option Float :=
    match String.ofList (cs.map Char.toLower) with
    | "inf" | "infinity" => some (1.0 / 0.0)
    | "nan" => some (0.0 / 0.0)
    | _ =>
        match literal? cs with
        | some (number, []) => some (literalValue number 0)
        | some (number, e :: rest) =>
            if e == 'e' || e == 'E' then
              (readInt? (String.ofList rest)).map (literalValue number)
            else none
        | none => none
  match s.toList with
  | '-' :: cs => (unsigned cs).map (- ·)
  | '+' :: cs => unsigned cs
  | cs => unsigned cs

end Pseudocode.Decimal
