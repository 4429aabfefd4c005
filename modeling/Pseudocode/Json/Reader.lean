import Pseudocode.Decimal.Notation
import Pseudocode.Decimal.Reading
import Pseudocode.Json.Basic

namespace Pseudocode.Json

inductive Reason where
  | byteOrderMark
  | extraData
  | expectingValue
  | expectingName
  | expectingColon
  | expectingComma
  | unterminated
  | controlCharacter
  | badEscape
  | badUnicodeEscape
deriving DecidableEq

def Reason.message : Reason → String
  | byteOrderMark => "Unexpected UTF-8 BOM (decode using utf-8-sig)"
  | extraData => "Extra data"
  | expectingValue => "Expecting value"
  | expectingName => "Expecting property name enclosed in double quotes"
  | expectingColon => "Expecting ':' delimiter"
  | expectingComma => "Expecting ',' delimiter"
  | unterminated => "Unterminated string starting at"
  | controlCharacter => "Invalid control character at"
  | badEscape => "Invalid \\escape"
  | badUnicodeEscape => "Invalid \\uXXXX escape"

/-- Why a text was not read: it is no JSON, or a whole number in it has too many digits. -/
inductive ReadFault where
  | malformed (reason : Reason) (place : Nat)
  | tooManyDigits (count : Nat)

structure Rest where
  place : Nat
  chars : List Char

def stop {α : Type} (reason : Reason) (place : Nat) : Except ReadFault α :=
  .error (.malformed reason place)

def isSpace (c : Char) : Bool := c == ' ' || c == '\t' || c == '\n' || c == '\r'

def Rest.skipSpace (rest : Rest) : Rest :=
  ⟨rest.place + (rest.chars.takeWhile isSpace).length, rest.chars.dropWhile isSpace⟩

def Rest.skip (rest : Rest) (n : Nat) : Rest := ⟨rest.place + n, rest.chars.drop n⟩

def hexDigit? (c : Char) : Option Nat :=
  let n := c.toNat
  if 48 ≤ n && n ≤ 57 then some (n - 48)
  else if 97 ≤ n && n ≤ 102 then some (n - 87)
  else if 65 ≤ n && n ≤ 70 then some (n - 55)
  else none

/-- The code unit that four hexadecimal digits at the start of a text write, when more text
follows them. -/
def codeUnit? : List Char → Option Nat
  | a :: b :: c :: d :: _ :: _ => do
      let a ← hexDigit? a
      let b ← hexDigit? b
      let c ← hexDigit? c
      let d ← hexDigit? d
      pure (((a * 16 + b) * 16 + c) * 16 + d)
  | _ => none

def escaped? : Char → Option Char
  | '"' => some '"'
  | '\\' => some '\\'
  | '/' => some '/'
  | 'b' => some '\x08'
  | 'f' => some '\x0c'
  | 'n' => some '\n'
  | 'r' => some '\r'
  | 't' => some '\t'
  | _ => none

def isHigh (unit : Nat) : Bool := 0xD800 ≤ unit && unit < 0xDC00

def isLow (unit : Nat) : Bool := 0xDC00 ≤ unit && unit < 0xE000

/-- The character of a code unit. Half a pair alone is no character and is replaced. -/
def unitChar (unit : Nat) : Char :=
  if isHigh unit || isLow unit then '\uFFFD' else Char.ofNat unit

def pairChar (high low : Nat) : Char :=
  Char.ofNat (0x10000 + (high - 0xD800) * 0x400 + (low - 0xDC00))

/-- Read the escape after a backslash, whose place is given: the character and how many characters
it took. -/
def readEscape (place : Nat) : List Char → Except ReadFault (Char × Nat)
  | 'u' :: more =>
      match codeUnit? more with
      | none => stop .badUnicodeEscape (place + 1)
      | some unit =>
          match isHigh unit, more.drop 4 with
          | true, '\\' :: 'u' :: further =>
              if further.length < 5 then .ok (unitChar unit, 5)
              else
                match codeUnit? further with
                | none => stop .badUnicodeEscape (place + 7)
                | some second =>
                    if isLow second then .ok (pairChar unit second, 11)
                    else .ok (unitChar unit, 5)
          | _, _ => .ok (unitChar unit, 5)
  | c :: _ =>
      match escaped? c with
      | some d => .ok (d, 1)
      | none => stop .badEscape place
  | [] => stop .badEscape place

/-- Read a text behind its opening quote, which stands at `start`. The first `skip` characters
were read already, and `done` holds what was read, last character first. -/
def readText (start : Nat) :
    (place skip : Nat) → (done : List Char) → List Char → Except ReadFault (String × Rest)
  | _, _, _, [] => stop .unterminated start
  | place, skip + 1, done, _ :: rest => readText start (place + 1) skip done rest
  | place, 0, done, c :: rest =>
      if c == '"' then .ok (String.ofList done.reverse, ⟨place + 1, rest⟩)
      else if c == '\\' then
        if rest.isEmpty then stop .unterminated start
        else
          match readEscape place rest with
          | .error fault => .error fault
          | .ok (d, width) => readText start (place + 1) width (d :: done) rest
      else if c.toNat < 0x20 then stop .controlCharacter place
      else readText start (place + 1) 0 (c :: done) rest

def leadingDigits (cs : List Char) : List Char := cs.takeWhile Char.isDigit

def wholePart : List Char → Option (List Char)
  | '0' :: _ => some ['0']
  | cs => match leadingDigits cs with | [] => none | ds => some ds

def fractionPart : List Char → List Char
  | '.' :: cs => match leadingDigits cs with | [] => [] | ds => '.' :: ds
  | _ => []

def exponentPart : List Char → List Char
  | e :: cs =>
      if e == 'e' || e == 'E' then
        let sign := match cs with | '-' :: _ => ['-'] | '+' :: _ => ['+'] | _ => []
        match leadingDigits (cs.drop sign.length) with
        | [] => []
        | ds => e :: sign ++ ds
      else []
  | [] => []

def decimal (ds : List Char) : Nat := ds.foldl (fun n c => 10 * n + (c.toNat - 48)) 0

def exponentValue : List Char → Int
  | _ :: '-' :: ds => -(decimal ds : Int)
  | _ :: '+' :: ds => decimal ds
  | _ :: ds => decimal ds
  | [] => 0

def splitSign : List Char → Bool × List Char
  | '-' :: cs => (true, cs)
  | cs => (false, cs)

def readNumber (rest : Rest) : Except ReadFault (Json × Rest) :=
  let (negative, cs) := splitSign rest.chars
  match wholePart cs with
  | none => stop .expectingValue rest.place
  | some whole =>
      let afterWhole := cs.drop whole.length
      let fraction := fractionPart afterWhole
      let exponent := exponentPart (afterWhole.drop fraction.length)
      let sign := if negative then 1 else 0
      let after := rest.skip (sign + whole.length + fraction.length + exponent.length)
      if fraction.isEmpty && exponent.isEmpty then
        if Text.integerDigits < whole.length then .error (.tooManyDigits whole.length)
        else
          let n := decimal whole
          .ok (.integer (if negative then -(n : Int) else n), after)
      else
        let digits := decimal (whole ++ fraction.drop 1)
        let x := Decimal.nearest digits (exponentValue exponent - (fraction.length - 1 : Nat))
        .ok (.number (if negative then -x else x), after)

def wordValues : List (String × Json) :=
  [("null", .null), ("true", .boolean true), ("false", .boolean false),
    ("NaN", .number (0.0 / 0.0)), ("Infinity", .number (1.0 / 0.0)),
    ("-Infinity", .number (-1.0 / 0.0))]

def readScalar (rest : Rest) : Except ReadFault (Json × Rest) :=
  match wordValues.find? fun word => word.1.toList.isPrefixOf rest.chars with
  | some (word, value) => .ok (value, rest.skip word.length)
  | none => readNumber rest

def putField (key : String) (value : Json) : List (String × Json) → List (String × Json)
  | [] => [(key, value)]
  | field :: rest =>
      if field.1 == key then (key, value) :: rest else field :: putField key value rest

/-- Read the items of an array up to its closing bracket. Each item takes a character, so `bound`
need not be larger than what is left to read. -/
def readItems (value : Rest → Except ReadFault (Json × Rest)) :
    (bound : Nat) → (done : List Json) → Rest → Except ReadFault (Json × Rest)
  | 0, _, rest => stop .expectingValue rest.place
  | bound + 1, done, rest => do
      let (item, after) ← value rest
      let after := after.skipSpace
      match after.chars with
      | ']' :: _ => .ok (.array (item :: done).reverse, after.skip 1)
      | ',' :: _ => readItems value bound (item :: done) (after.skip 1).skipSpace
      | _ => stop .expectingComma after.place

def readFields (value : Rest → Except ReadFault (Json × Rest)) :
    (bound : Nat) → (done : List (String × Json)) → Rest → Except ReadFault (Json × Rest)
  | 0, _, rest => stop .expectingName rest.place
  | bound + 1, done, rest =>
      match rest.chars with
      | '"' :: more => do
          let (key, after) ← readText rest.place (rest.place + 1) 0 [] more
          let after := after.skipSpace
          match after.chars with
          | ':' :: _ =>
              let (item, after) ← value (after.skip 1).skipSpace
              let after := after.skipSpace
              let done := putField key item done
              match after.chars with
              | '}' :: _ => .ok (.object done, after.skip 1)
              | ',' :: _ => readFields value bound done (after.skip 1).skipSpace
              | _ => stop .expectingComma after.place
          | _ => stop .expectingColon after.place
      | _ => stop .expectingName rest.place

def readValue : (depth : Nat) → Rest → Except ReadFault (Json × Rest)
  | 0, rest => stop .expectingValue rest.place
  | depth + 1, rest =>
      match rest.chars with
      | [] => stop .expectingValue rest.place
      | '"' :: more => do
          let (s, after) ← readText rest.place (rest.place + 1) 0 [] more
          .ok (.text s, after)
      | '[' :: _ =>
          let inner := (rest.skip 1).skipSpace
          match inner.chars with
          | ']' :: _ => .ok (.array [], inner.skip 1)
          | _ => readItems (readValue depth) (inner.chars.length + 1) [] inner
      | '{' :: _ =>
          let inner := (rest.skip 1).skipSpace
          match inner.chars with
          | '}' :: _ => .ok (.object [], inner.skip 1)
          | _ => readFields (readValue depth) (inner.chars.length + 1) [] inner
      | _ => readScalar rest

def read (cs : List Char) : Except ReadFault Json :=
  match cs with
  | '\uFEFF' :: _ => stop .byteOrderMark 0
  | _ => do
      let start : Rest := ⟨0, cs⟩
      let (value, after) ← readValue (cs.length + 1) start.skipSpace
      let after := after.skipSpace
      if after.chars.isEmpty then .ok value else stop .extraData after.place

/-- A place in a text as line and column, both counted from one, and as the number of characters
before it. -/
def describePlace (cs : List Char) (place : Nat) : String :=
  let before := cs.take place
  let line := before.count '\n' + 1
  let column := (before.reverse.takeWhile (· != '\n')).length + 1
  "line " ++ Decimal.digitsOf line ++ " column " ++ Decimal.digitsOf column ++ " (char " ++
    Decimal.digitsOf place ++ ")"

def describe (cs : List Char) (reason : Reason) (place : Nat) : String :=
  reason.message ++ ": " ++ describePlace cs place

end Pseudocode.Json
