import Handoff.Text.HexDigit

/-!
# Options on a command line

An option is a word after two dashes, or a letter after one; letters may share a dash. A switch stands
alone and only once, a repeatable switch as often as one likes, and a setting takes one value, in the
same word or in the next, which may have to be a count. After a word of two dashes everything is an
operand, and there is room for a fixed number of operands. A line that breaks these rules is no use at
all from the first word that does.
-/

namespace Handoff.Command

/-- A count in decimal digits, maybe after a plus sign, that fits in 64 bits. -/
def count? (text : String) : Option Nat :=
  let digits :=
    match text.toList with
    | '+' :: rest => rest
    | all => all
  if digits.isEmpty || !digits.all Char.isDigit then none
  else
    let n := Text.digitsNumber 10 digits
    if n < Nat.pow 2 64 then some n else none

/-- What an option takes. -/
inductive OptionKind where
  | switch
  | repeatable
  | setting
  /-- A setting whose value is a count. -/
  | count
  /-- An option that answers by itself and ends the reading. -/
  | answer
  deriving DecidableEq, Repr, Inhabited

namespace OptionKind

/-- Whether an option takes a value. -/
def takesValue (k : OptionKind) : Bool := k == setting || k == count

/-- Whether an option may have a value. -/
def accepts (k : OptionKind) (value : String) : Bool := k != count || (count? value).isSome

end OptionKind

/-- An option. -/
structure OptionRule where
  name : String
  letter : Option Char := none
  kind : OptionKind := .switch
  deriving DecidableEq, Repr, Inhabited

/-- The options and operands that a line gives. -/
structure Given where
  options : List (String × Option String) := []
  operands : List String := []
  deriving DecidableEq, Repr, Inhabited

/-- What reading a line leads to. -/
inductive Reading where
  | done (given : Given)
  /-- A command was named; the rest belongs to it. -/
  | command (given : Given) (name : String) (rest : List String)
  | answer (name : String)
  | invalid
  deriving DecidableEq, Repr, Inhabited

namespace Given

/-- Whether an option was given. -/
def has (g : Given) (name : String) : Bool := g.options.any (·.1 == name)

/-- The value of a setting. -/
def value? (g : Given) (name : String) : Option String := (g.options.lookup name).join

/-- A line that gives one option more. -/
def add (g : Given) (name : String) (value : Option String) : Given :=
  { g with options := g.options ++ [(name, value)] }

/-- Whether an option may be given in addition. -/
def allows (g : Given) (rule : OptionRule) : Bool := rule.kind == .repeatable || !g.has rule.name

end Given

/-- How the letters of one word are read: all given, or one that waits for its value. -/
inductive Letters where
  | given (given : Given)
  | waiting (given : Given) (rule : OptionRule)
  | answer (name : String)
  | invalid

/-- Give an option its value. -/
def Given.give (g : Given) (rule : OptionRule) (value : String) : Letters :=
  if rule.kind.accepts value then .given (g.add rule.name (some value)) else .invalid

/-- Read the letters of a word. -/
def readLetters (rules : List OptionRule) : List Char → Given → Letters
  | [], g => .given g
  | c :: rest, g =>
    match rules.find? (·.letter == some c) with
    | none => .invalid
    | some rule =>
      if rule.kind = .answer then .answer rule.name
      else if !g.allows rule then .invalid
      else if rule.kind.takesValue then
        match rest with
        | [] => .waiting g rule
        | '=' :: value => g.give rule (String.ofList value)
        | value => g.give rule (String.ofList value)
      else readLetters rules rest (g.add rule.name none)

/-- Read a word after its two dashes. -/
def readWord (rules : List OptionRule) (word : List Char) (g : Given) : Letters :=
  let name := word.takeWhile (· ≠ '=')
  let value :=
    match word.dropWhile (· ≠ '=') with
    | _ :: value => some (String.ofList value)
    | [] => none
  match rules.find? (·.name == String.ofList name) with
  | none => .invalid
  | some rule =>
    if rule.kind = .answer ∧ value = none then .answer rule.name
    else if !g.allows rule then .invalid
    else
      match rule.kind.takesValue, value with
      | true, some value => g.give rule value
      | true, none => .waiting g rule
      | false, none => .given (g.add rule.name none)
      | false, some _ => .invalid

/-- Whether a word looks like an option. -/
def isOption (word : String) : Bool :=
  match word.toList with
  | '-' :: _ :: _ => true
  | _ => false

/-- What may stand on a line: options, the names of commands, and a number of operands. -/
structure LineShape where
  rules : List OptionRule
  commands : List String := []
  operands : Nat := 0
  deriving DecidableEq, Repr, Inhabited

/-- Operands in addition to those that a line gives, if there is room for them. -/
def LineShape.addOperands? (shape : LineShape) (words : List String) (g : Given) : Option Given :=
  let operands := g.operands ++ words
  if operands.length ≤ shape.operands then some { g with operands } else none

/-- Read the words of a line; the last argument is a setting whose value comes next. -/
def LineShape.read (shape : LineShape) : List String → Given → Option OptionRule → Reading
  | [], g, none => .done g
  | [], _, some _ => .invalid
  | word :: rest, g, some rule =>
    if isOption word ∨ !rule.kind.accepts word then .invalid
    else read shape rest (g.add rule.name (some word)) none
  | word :: rest, g, none =>
    match word.toList with
    | ['-', '-'] =>
      match shape.addOperands? rest g with
      | some g => .done g
      | none => .invalid
    | '-' :: c :: letters =>
      let result :=
        if c = '-' then readWord shape.rules letters g
        else readLetters shape.rules (c :: letters) g
      match result with
      | .given g => read shape rest g none
      | .waiting g rule => read shape rest g (some rule)
      | .answer name => .answer name
      | .invalid => .invalid
    | _ =>
      if shape.commands.contains word then .command g word rest
      else
        match shape.addOperands? [word] g with
        | some g => read shape rest g none
        | none => .invalid

end Handoff.Command
