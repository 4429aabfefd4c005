import Pseudocode.Decimal.Notation
import Pseudocode.Text.Quoted

namespace Pseudocode

inductive Json where
  | null
  | boolean (b : Bool)
  | integer (n : Int)
  | number (x : Float)
  | text (s : String)
  | array (items : List Json)
  | object (fields : List (String × Json))
deriving Inhabited

namespace Json

open Text

def field? (key : String) : Json → Option Json
  | object fields => fields.lookup key
  | _ => none

def unitEscape (unit : Nat) : List Char := '\\' :: 'u' :: hexadecimal 4 unit

def textChar (c : Char) : List Char :=
  let n := c.toNat
  if c == '"' then ['\\', '"']
  else if c == '\\' then ['\\', '\\']
  else if c == '\n' then ['\\', 'n']
  else if c == '\r' then ['\\', 'r']
  else if c == '\t' then ['\\', 't']
  else if c == '\x08' then ['\\', 'b']
  else if c == '\x0c' then ['\\', 'f']
  else if 0x20 ≤ n && n < 0x7F then [c]
  else if n < 0x10000 then unitEscape n
  else unitEscape (0xD800 + (n - 0x10000) / 0x400) ++ unitEscape (0xDC00 + (n - 0x10000) % 0x400)

def textLiteral (s : String) : String := String.ofList ('"' :: s.toList.flatMap textChar ++ ['"'])

def numberLiteral (x : Float) : String :=
  if x.isNaN then "NaN"
  else if x.isInf then (if Decimal.isNegative x then "-Infinity" else "Infinity")
  else Decimal.floating x

def newLine (depth : Nat) : String := String.ofList ('\n' :: List.replicate (4 * depth) ' ')

def enclose (left right : String) (depth : Nat) (items : List String) : String :=
  match items with
  | [] => left ++ right
  | _ =>
      left ++ newLine (depth + 1) ++ ("," ++ newLine (depth + 1)).intercalate items ++
        newLine depth ++ right

mutual

def renderAt (depth : Nat) : Json → String
  | null => "null"
  | boolean b => if b then "true" else "false"
  | integer n => Decimal.integer n
  | number x => numberLiteral x
  | text s => textLiteral s
  | array items => enclose "[" "]" depth (renderItems (depth + 1) items)
  | object fields => enclose "\x7b" "\x7d" depth (renderFields (depth + 1) fields)

def renderItems (depth : Nat) : List Json → List String
  | [] => []
  | item :: rest => renderAt depth item :: renderItems depth rest

def renderFields (depth : Nat) : List (String × Json) → List String
  | [] => []
  | (key, value) :: rest =>
      (textLiteral key ++ ": " ++ renderAt depth value) :: renderFields depth rest

end

def render (value : Json) : String := renderAt 0 value

mutual

def shownInside : Json → String
  | null => "None"
  | boolean b => if b then "True" else "False"
  | integer n => Decimal.integer n
  | number x => Decimal.floating x
  | text s => quoted s
  | array items => "[" ++ ", ".intercalate (shownItems items) ++ "]"
  | object fields => "\x7b" ++ ", ".intercalate (shownFields fields) ++ "\x7d"

def shownItems : List Json → List String
  | [] => []
  | item :: rest => shownInside item :: shownItems rest

def shownFields : List (String × Json) → List String
  | [] => []
  | (key, value) :: rest => (quoted key ++ ": " ++ shownInside value) :: shownFields rest

end

def shown : Json → String
  | text s => s
  | value => shownInside value

end Json

end Pseudocode
