/-!
The shortest decimal that reads back as a given double: of the decimals with the fewest digits
that round to it, the nearest, and of two equally near the one with an even last digit. All
arithmetic is exact.
-/

namespace Pseudocode.Decimal

/-- A finite non-negative double, `m * 2 ^ q`. -/
structure Binary where
  m : Nat
  q : Int
  /-- The gap to the double below is half the gap to the double above. -/
  narrowBelow : Bool

def Binary.ofFloat (x : Float) : Binary :=
  let bits := x.toBits
  let e := ((bits >>> 52) &&& 0x7FF).toNat
  let f := (bits &&& 0xFFFFFFFFFFFFF).toNat
  if e == 0 then ⟨f, -1074, false⟩
  else ⟨0x10000000000000 + f, (e : Int) - 1075, f == 0 && e > 1⟩

/-- The decimal `digits * 10 ^ exponent`. -/
structure Dec where
  digits : Nat
  exponent : Int

def compareScaled (a : Nat) (i : Int) (n : Nat) (j : Int) : Ordering :=
  compare (a * Nat.pow 10 i.toNat * Nat.pow 2 (-j).toNat)
    (n * Nat.pow 2 j.toNat * Nat.pow 10 (-i).toNat)

/-- Whether a decimal lies among the reals that round to a double: from halfway to the double
below up to halfway to the double above, the ends included when the significand is even. -/
def Binary.readsBack (x : Binary) (d : Dec) : Bool :=
  let low := if x.narrowBelow then 4 * x.m - 1 else 4 * x.m - 2
  let high := 4 * x.m + 2
  let closed := x.m % 2 == 0
  let atLow := compareScaled d.digits d.exponent low (x.q - 2)
  let atHigh := compareScaled d.digits d.exponent high (x.q - 2)
  (atLow == .gt || (closed && atLow == .eq)) && (atHigh == .lt || (closed && atHigh == .eq))

def width (n : Nat) : Nat := (Nat.toDigits 10 n).length

def Binary.scale (x : Binary) : Int :=
  if 0 ≤ x.q then width (x.m * Nat.pow 2 x.q.toNat)
  else
    let whole := x.m / Nat.pow 2 (-x.q).toNat
    if 0 < whole then width whole
    else
      -- No double has more than 323 zeros behind the point.
      let places : Nat := 350
      (width (x.m * Nat.pow 10 places / Nat.pow 2 (-x.q).toNat) : Int) - places

def Binary.quotient (x : Binary) (e : Int) : Nat :=
  (x.m * Nat.pow 2 x.q.toNat * Nat.pow 10 (-e).toNat) /
    (Nat.pow 10 e.toNat * Nat.pow 2 (-x.q).toNat)

/-- The decimal with a given exponent that reads back, if one of the value's two neighbours on
that grid does. -/
def Binary.onGrid (x : Binary) (e : Int) : Option Dec :=
  let below : Dec := ⟨x.quotient e, e⟩
  let above : Dec := ⟨x.quotient e + 1, e⟩
  match x.readsBack below, x.readsBack above with
  | true, false => some below
  | false, true => some above
  | false, false => none
  | true, true =>
      match compareScaled (2 * below.digits + 1) e (2 * x.m) x.q with
      | .lt => some above
      | .gt => some below
      | .eq => some (if below.digits % 2 == 0 then below else above)

/-- The decimal without the zeros at the end of its digits; `bound` limits how many go. -/
def Dec.strip : Nat → Dec → Dec
  | 0, d => d
  | bound + 1, d =>
      if d.digits % 10 == 0 && d.digits != 0 then
        Dec.strip bound ⟨d.digits / 10, d.exponent + 1⟩
      else d

/-- The exact decimal value, which is written when no grid of seventeen digits has a hit. -/
def Binary.exact (x : Binary) : Dec :=
  if 0 ≤ x.q then ⟨x.m * Nat.pow 2 x.q.toNat, 0⟩ else ⟨x.m * Nat.pow 5 (-x.q).toNat, x.q⟩

def shortest (x : Binary) : Dec :=
  if x.m == 0 then ⟨0, 0⟩
  else
    let top := x.scale
    match (List.range 17).findSome? fun n => x.onGrid (top - (n + 1 : Nat)) with
    | some d => d.strip 20
    | none => x.exact

end Pseudocode.Decimal
