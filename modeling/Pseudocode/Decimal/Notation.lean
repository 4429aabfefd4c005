import Pseudocode.Decimal.Shortest

namespace Pseudocode.Decimal

def digitsOf (n : Nat) : String := String.ofList (Nat.toDigits 10 n)

def integer (n : Int) : String :=
  if n < 0 then "-" ++ digitsOf n.natAbs else digitsOf n.natAbs

def zeroes (n : Nat) : String := String.ofList (List.replicate n '0')

/-- Positional notation for digits whose leading one stands at `10 ^ e`, always with a point and
a digit after it. -/
def positional (digits : String) (e : Int) : String :=
  let cs := digits.toList
  if e < 0 then "0." ++ zeroes (-e - 1).toNat ++ digits
  else
    let whole := e.toNat + 1
    if cs.length ≤ whole then digits ++ zeroes (whole - cs.length) ++ ".0"
    else String.ofList (cs.take whole) ++ "." ++ String.ofList (cs.drop whole)

def scientific (digits : String) (e : Int) : String :=
  let mantissa :=
    match digits.toList with
    | c :: d :: more => String.ofList (c :: '.' :: d :: more)
    | cs => String.ofList cs
  let exponent := digitsOf e.natAbs
  let padding := zeroes (2 - exponent.length)
  mantissa ++ (if e < 0 then "e-" else "e+") ++ padding ++ exponent

def magnitude (x : Binary) : String :=
  let d := shortest x
  let digits := digitsOf d.digits
  let e := d.exponent + digits.length - 1
  if x.m == 0 then "0.0"
  else if -4 ≤ e && e < 16 then positional digits e else scientific digits e

def isNegative (x : Float) : Bool := x.toBits >>> 63 == 1

def floating (x : Float) : String :=
  if x.isNaN then "nan"
  else
    let sign := if isNegative x then "-" else ""
    if x.isInf then sign ++ "inf" else sign ++ magnitude (Binary.ofFloat x)

def whole? (x : Float) : Option Int :=
  if x.isNaN || x.isInf then none
  else
    let b := Binary.ofFloat x
    let magnitude : Option Nat :=
      if 0 ≤ b.q then some (b.m * Nat.pow 2 b.q.toNat)
      else if b.m % Nat.pow 2 (-b.q).toNat == 0 then some (b.m / Nat.pow 2 (-b.q).toNat)
      else none
    magnitude.map fun n => if isNegative x then -(n : Int) else n

def render (x : Float) : String :=
  match whole? x with
  | some n => integer n
  | none => floating x

end Pseudocode.Decimal
