import Pseudocode.Decimal.Reading
import Pseudocode.Text.Quoted

/-!
Arguments of a command read by a grammar of options. A long option may be cut short as long as it
stays unambiguous and may have its value behind an equals sign; short options may be written
together and with their value; behind `--` nothing is an option, and in place of a value `--` says
that there is none. A grammar has at most one operand besides its options, and the operand of a
command takes everything behind it.
-/

namespace Pseudocode.Cli

open Pseudocode.Text

def dashes : String := "--"

/-- What an option does to the state that is being built. One with a value may be told that there
is none. -/
inductive OptionAction (σ : Type) where
  | help
  | switch (set : σ → σ)
  | text (set : Option String → σ → σ)
  | integer (set : Option Int → σ → σ)

def OptionAction.takesValue {σ : Type} : OptionAction σ → Bool
  | help => false
  | switch _ => false
  | text _ => true
  | integer _ => true

structure OptionSpec (σ : Type) where
  names : List String
  action : OptionAction σ

def OptionSpec.title {σ : Type} (option : OptionSpec σ) : String := "/".intercalate option.names

/-- The operand of a grammar: a word that has to be given, or a command with all that follows. -/
inductive Operand where
  | word (name : String)
  | command
deriving DecidableEq

structure Grammar (σ : Type) where
  options : List (OptionSpec σ)
  operand : Option Operand

/-- Why reading arguments stops early: help was asked for, or the arguments are wrong. -/
inductive Stop where
  | help
  | wrong (message : String)

/-- An option that an argument names: under which name, and with which value in the same
argument. -/
structure Mention (σ : Type) where
  option : OptionSpec σ
  name : String
  value : Option String

/-- What an argument is taken for. An option may be unknown. -/
inductive ArgClass (σ : Type) where
  | dashes
  | operand
  | option (mention : Option (Mention σ))

structure Arg (σ : Type) where
  text : String
  cls : ArgClass σ

namespace Grammar

variable {σ : Type}

def named (g : Grammar σ) : List (String × OptionSpec σ) :=
  g.options.flatMap fun option => option.names.map fun name => (name, option)

def find? (g : Grammar σ) (name : String) : Option (OptionSpec σ) := g.named.lookup name

def cutAtEquals (s : String) : Option (String × String) :=
  let cs := s.toList
  if cs.contains '=' then
    some (String.ofList (cs.takeWhile (· != '=')), String.ofList ((cs.dropWhile (· != '=')).drop 1))
  else none

def guesses (g : Grammar σ) (s : String) : List (Mention σ) :=
  match s.toList with
  | '-' :: '-' :: _ =>
      let (lead, value) :=
        match cutAtEquals s with
        | some (lead, value) => (lead, some value)
        | none => (s, none)
      g.named.filterMap fun (name, option) =>
        if lead.toList.isPrefixOf name.toList then some ⟨option, name, value⟩ else none
  | '-' :: c :: tail =>
      g.named.filterMap fun (name, option) =>
        if name.toList == ['-', c] then some ⟨option, name, some (String.ofList tail)⟩
        else if s.toList.isPrefixOf name.toList then some ⟨option, name, none⟩
        else none
  | _ => []

def isNegativeNumber (cs : List Char) : Bool :=
  let digits := if cs.getLast? == some '\n' then cs.dropLast else cs
  match digits with
  | '-' :: number =>
      let whole := number.takeWhile isDigit
      match number.dropWhile isDigit with
      | [] => !whole.isEmpty
      | '.' :: fraction => !fraction.isEmpty && fraction.all isDigit
      | _ => false
  | _ => false

def classify (g : Grammar σ) (s : String) : Except Stop (ArgClass σ) :=
  let cs := s.toList
  if cs.head? != some '-' then .ok .operand
  else
    match g.find? s with
    | some option => .ok (.option (some ⟨option, s, none⟩))
    | none =>
        if cs.length == 1 then .ok .operand
        else
          let exact : Option (Mention σ) := do
            let (name, value) ← cutAtEquals s
            let option ← g.find? name
            pure ⟨option, name, some value⟩
          match exact with
          | some mention => .ok (.option (some mention))
          | none =>
              match g.guesses s with
              | [mention] => .ok (.option (some mention))
              | [] =>
                  if isNegativeNumber cs || cs.contains ' ' then .ok .operand
                  else .ok (.option none)
              | several =>
                  .error (.wrong
                    ("ambiguous option: " ++ s ++ " could match " ++
                      ", ".intercalate (several.map (·.name))))

def classifyAll (g : Grammar σ) : List String → Except Stop (List (Arg σ))
  | [] => .ok []
  | s :: rest =>
      if s == dashes then .ok (⟨s, .dashes⟩ :: rest.map fun t => ⟨t, .operand⟩)
      else do
        let cls ← g.classify s
        let more ← g.classifyAll rest
        pure (⟨s, cls⟩ :: more)

end Grammar

def Arg.isOption {σ : Type} (arg : Arg σ) : Bool := arg.cls matches .option _

def Arg.isDashes {σ : Type} (arg : Arg σ) : Bool := arg.cls matches .dashes

def Arg.isOperand {σ : Type} (arg : Arg σ) : Bool := arg.cls matches .operand

/-- What was read so far: the state, the words of the operand, and the arguments that have no
meaning. -/
structure Parsed (σ : Type) where
  state : σ
  operand : Option (List String) := none
  extras : List String := []

/-- A use of an option, with its value if it takes one. -/
structure Use (σ : Type) where
  option : OptionSpec σ
  value : Option String

def complain {σ α : Type} (option : OptionSpec σ) (message : String) : Except Stop α :=
  .error (.wrong ("argument " ++ option.title ++ ": " ++ message))

def Use.apply {σ : Type} (use : Use σ) (state : σ) : Except Stop σ :=
  match use.option.action, use.value with
  | .help, _ => .error .help
  | .switch set, _ => .ok (set state)
  | .text set, some s => .ok (set (if s == dashes then none else some s) state)
  | .integer set, some s =>
      if s == dashes then .ok (set none state)
      else
        match readInt? s with
        | some n => .ok (set (some n) state)
        | none => complain use.option ("invalid int value: " ++ quoted s)
  | .text _, none => .ok state
  | .integer _, none => .ok state

/-- The uses that one argument makes of options, written together, and the number of arguments
behind it that are values. `bound` limits how many options can be written together. -/
def usesOf {σ : Type} (g : Grammar σ) (rest : List (Arg σ)) :
    (bound : Nat) → Mention σ → Except Stop (List (Use σ) × Nat)
  | 0, _ => .ok ([], 0)
  | bound + 1, mention =>
      let option := mention.option
      match mention.value with
      | none =>
          if option.action.takesValue then
            match rest with
            | arg :: _ =>
                if arg.isOperand then .ok ([⟨option, some arg.text⟩], 1)
                else complain option "expected one argument"
            | [] => complain option "expected one argument"
          else .ok ([⟨option, none⟩], 0)
      | some value =>
          if option.action.takesValue then .ok ([⟨option, some value⟩], 0)
          else
            match mention.name.toList, value.toList with
            | _ :: '-' :: _, _ => complain option ("ignored explicit argument " ++ quoted value)
            | _, [] => complain option ("ignored explicit argument " ++ quoted value)
            | _, c :: tail =>
                let name := String.ofList ['-', c]
                match g.find? name with
                | none => complain option ("ignored explicit argument " ++ quoted value)
                | some next =>
                    let inner := if tail.isEmpty then none else some (String.ofList tail)
                    do
                      let (uses, count) ← usesOf g rest bound ⟨next, name, inner⟩
                      pure (⟨option, none⟩ :: uses, count)

def operandLength {σ : Type} (operand : Operand) (args : List (Arg σ)) : Nat :=
  let dashes := args.takeWhile Arg.isDashes
  match args.drop dashes.length with
  | arg :: more =>
      if arg.isOperand then
        match operand with
        | .command => args.length
        | .word _ => dashes.length + 1 + (more.takeWhile Arg.isDashes).length
      else 0
  | [] => 0

/-- Let the operand take the arguments at the start that belong to it, and say how many. -/
def takeOperand {σ : Type} (g : Grammar σ) (args : List (Arg σ)) (parsed : Parsed σ) :
    Parsed σ × Nat :=
  match g.operand, parsed.operand with
  | some operand, none =>
      match operandLength operand args with
      | 0 => (parsed, 0)
      | n =>
          let words := (args.take n).map (·.text)
          let words := if operand = .command then words else words.erase dashes
          ({ parsed with operand := some words }, n)
  | _, _ => (parsed, 0)

/-- Take options and the operand in turn. Each round takes an argument, so `bound` need not be
larger than their number. -/
def consume {σ : Type} (g : Grammar σ) :
    (bound : Nat) → List (Arg σ) → Parsed σ → Except Stop (Parsed σ)
  | 0, args, parsed => .ok { parsed with extras := parsed.extras ++ args.map (·.text) }
  | bound + 1, args, parsed =>
      let before := args.takeWhile fun arg => !arg.isOption
      match args.drop before.length with
      | [] =>
          let (parsed, n) := takeOperand g args parsed
          .ok { parsed with extras := parsed.extras ++ (args.drop n).map (·.text) }
      | arg :: rest =>
          let (parsed, n) := if before.isEmpty then (parsed, 0) else takeOperand g args parsed
          if n ≠ 0 then consume g bound (args.drop n) parsed
          else
            let parsed := { parsed with extras := parsed.extras ++ before.map Arg.text }
            match arg.cls with
            | .option (some mention) => do
                let (uses, count) ← usesOf g rest (arg.text.length + 1) mention
                let state ← uses.foldlM (fun state use => use.apply state) parsed.state
                consume g bound (rest.drop count) { parsed with state }
            | _ => consume g bound rest { parsed with extras := parsed.extras ++ [arg.text] }

/-- Read arguments by a grammar. An operand that is a word has to be there. -/
def Grammar.parse {σ : Type} (g : Grammar σ) (start : σ) (arguments : List String) :
    Except Stop (Parsed σ) := do
  let args ← g.classifyAll arguments
  let parsed ← consume g (args.length + 1) args { state := start }
  match g.operand, parsed.operand with
  | some (.word name), none =>
      .error (.wrong ("the following arguments are required: " ++ name))
  | _, _ => .ok parsed

end Pseudocode.Cli
