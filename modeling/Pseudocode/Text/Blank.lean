namespace Pseudocode.Text

def isBlank (c : Char) : Bool :=
  let n := c.toNat
  (0x09 ≤ n && n ≤ 0x0D) || (0x1C ≤ n && n ≤ 0x20) || n == 0x85 || n == 0xA0 || n == 0x1680 ||
    (0x2000 ≤ n && n ≤ 0x200A) || n == 0x2028 || n == 0x2029 || n == 0x202F || n == 0x205F ||
    n == 0x3000

def trimLeft (cs : List Char) : List Char := cs.dropWhile isBlank

def trimRight (cs : List Char) : List Char := (trimLeft cs.reverse).reverse

def trim (cs : List Char) : List Char := trimRight (trimLeft cs)

def trimString (s : String) : String := String.ofList (trim s.toList)

def firstWord (cs : List Char) : List Char := cs.takeWhile fun c => !isBlank c

def afterWord (cs : List Char) : List Char := cs.dropWhile fun c => !isBlank c

def words : List Char → List (List Char)
  | [] => []
  | c :: rest =>
      if isBlank c then words rest
      else
        match rest, words rest with
        | d :: _, w :: ws => if isBlank d then [c] :: w :: ws else (c :: w) :: ws
        | _, ws => [c] :: ws

def collapse : List Char → List Char
  | [] => []
  | c :: rest =>
      if isBlank c then
        match rest with
        | [] => [' ']
        | d :: _ => if isBlank d then collapse rest else ' ' :: collapse rest
      else c :: collapse rest

/-- The characters that end a line. A carriage return and the line feed after it are one break. -/
def isBreak (c : Char) : Bool :=
  let n := c.toNat
  (0x0A ≤ n && n ≤ 0x0D) || (0x1C ≤ n && n ≤ 0x1E) || n == 0x85 || n == 0x2028 || n == 0x2029

def extendLine (c : Char) : List (List Char) → List (List Char)
  | [] => [[c]]
  | line :: more => (c :: line) :: more

/-- The lines of a text without their breaks. A break at the very end starts no further line. -/
def lines : List Char → List (List Char)
  | [] => []
  | '\r' :: '\n' :: rest => [] :: lines rest
  | c :: rest => if isBreak c then [] :: lines rest else extendLine c (lines rest)

def unifyBreaks : List Char → List Char
  | [] => []
  | '\r' :: '\n' :: rest => '\n' :: unifyBreaks rest
  | '\r' :: rest => '\n' :: unifyBreaks rest
  | c :: rest => c :: unifyBreaks rest

def unlines (texts : List String) : String := String.join (texts.map (· ++ "\n"))

end Pseudocode.Text
