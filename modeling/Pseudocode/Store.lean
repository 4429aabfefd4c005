import Pseudocode.Fault
import Pseudocode.Text.Blank
import Pseudocode.Text.Case
import Pseudocode.Value

namespace Pseudocode

open Text

/-- A variable: its name, its current value, and the type that its first value declared. -/
structure Variable where
  name : String
  value : Value
  declared : ValueKind

def Variable.create (name : String) (value : Value) : Variable :=
  { name, value, declared := value.kind }

def Variable.describe (v : Variable) : String :=
  "Variable(name=" ++ v.name ++ ", value=" ++ v.value.render ++ ", declared_type=" ++
    v.declared.name ++ ")"

/-- The variables in order of their first assignment, under normalized names. -/
structure Store where
  entries : List (String × Variable) := []

namespace Store

/-- The form under which a name is kept. -/
def normalize (name : String) : String := String.ofList (upper (trim name.toList))

def isLetter (c : Char) : Bool := ('a' ≤ c && c ≤ 'z') || ('A' ≤ c && c ≤ 'Z')

def isLetterOrDigit (c : Char) : Bool := isLetter c || ('0' ≤ c && c ≤ '9')

def isIdentifier : List Char → Bool
  | [] => false
  | c :: rest => isLetter c && rest.all isLetterOrDigit

/-- Whether a name passes as one for a variable; a line feed at its very end is overlooked. -/
def isName (name : String) : Bool :=
  match name.toList.reverse with
  | '\n' :: rest => isIdentifier rest.reverse
  | _ => isIdentifier name.toList

def find? (store : Store) (key : String) : Option Variable := store.entries.lookup key

def get? (store : Store) (key : String) : Option Value := (store.find? key).map (·.value)

def lookup (store : Store) (name : String) : Option Value := store.get? (normalize name)

def bindings (store : Store) : List (String × Value) :=
  store.entries.map fun entry => (entry.1, entry.2.value)

/-- Put a variable under a normalized name: in the old place if there is one, else at the end. -/
def put (store : Store) (key : String) (v : Variable) : Store :=
  let rec go : List (String × Variable) → List (String × Variable)
    | [] => [(key, v)]
    | entry :: rest => if entry.1 == key then (key, v) :: rest else entry :: go rest
  ⟨go store.entries⟩

/-- Assign a value to a variable. The name has to be valid, and a variable keeps the type that it
was declared with. -/
def assign (name : String) (value : Value) : EStateM Fault Store Variable := do
  let key := normalize name
  unless isName key do
    throw { kind := .invalidIdentifier, detail := "Invalid variable name: " ++ name }
  match (← get).find? key with
  | none =>
      let created := Variable.create key value
      modify (·.put key created)
      return created
  | some existing =>
      unless existing.declared = value.kind do
        throw
          { kind := .typeMismatch
            detail := "Variable '" ++ key ++ "' was declared as " ++ existing.declared.name ++
              " but assigned " ++ value.kind.name }
      let changed := { existing with value }
      modify (·.put key changed)
      return changed

end Store

end Pseudocode
