import Handoff.Json.Basic
import Handoff.Number.Shortest

/-!
# JSON text

Numbers are written with their shortest digits: positionally with a point while the exponent of the
first digit is between `-5` and `15`, and with an exponent outside. In strings only quotes, backslashes
and control characters are escaped. The compact form has no blanks; the indented form puts every item
on a line of its own, two blanks deeper than its container.
-/

namespace Handoff.Json

/-- The digits of a decimal with an exponent: one digit, the others after a point, and the exponent
with its sign. -/
def scientificChars (digits : List Char) (leading : Int) : List Char :=
  let mantissa :=
    match digits with
    | [] => []
    | [d] => [d]
    | d :: rest => d :: '.' :: rest
  mantissa ++ 'e' :: (if leading < 0 then '-' else '+') :: (toString leading.natAbs).toList

/-- The digits of a decimal with a point at its place; whole numbers end in a zero place. -/
def positionalChars (digits : List Char) (leading : Int) : List Char :=
  if leading < 0 then
    '0' :: '.' :: (List.replicate (leading.natAbs - 1) '0' ++ digits)
  else
    let places := leading.toNat + 1
    if digits.length ≤ places then
      digits ++ List.replicate (places - digits.length) '0' ++ ['.', '0']
    else digits.take places ++ '.' :: digits.drop places

/-- The text of a number. -/
def numberChars (x : Binary64) : List Char :=
  let d := x.shortest
  let digits := d.text.toList
  let leading := d.leading
  let magnitude :=
    if -5 ≤ leading ∧ leading ≤ 15 then positionalChars digits leading
    else scientificChars digits leading
  if x.negative then '-' :: magnitude else magnitude

/-- The four hexadecimal digits of an escaped character. -/
def hexFour (n : Nat) : List Char :=
  [n / 4096 % 16, n / 256 % 16, n / 16 % 16, n % 16].map Nat.digitChar

/-- The written form of one character of a string. -/
def escapeChar (c : Char) : List Char :=
  if c = '"' then ['\\', '"']
  else if c = '\\' then ['\\', '\\']
  else if c.toNat = 8 then ['\\', 'b']
  else if c.toNat = 12 then ['\\', 'f']
  else if c = '\n' then ['\\', 'n']
  else if c = '\r' then ['\\', 'r']
  else if c = '\t' then ['\\', 't']
  else if c.toNat < 32 then '\\' :: 'u' :: hexFour c.toNat
  else [c]

/-- The written form of a string. -/
def stringChars (s : String) : List Char :=
  '"' :: (s.toList.flatMap escapeChar ++ ['"'])

/-- The written form of a string, as a string. -/
def stringText (s : String) : String := String.ofList (stringChars s)

mutual

/-- The compact text of a value. -/
def compactChars : Json → List Char
  | null => "null".toList
  | bool true => "true".toList
  | bool false => "false".toList
  | int i => (toString i).toList
  | number x => numberChars x
  | string s => stringChars s
  | array items => '[' :: compactItems items
  | object members => '\x7b' :: compactMembers members
  | unusable => "null".toList

/-- The compact text of the items of an array and its closing bracket. -/
def compactItems : List Json → List Char
  | [] => [']']
  | [item] => compactChars item ++ [']']
  | item :: next :: rest => compactChars item ++ ',' :: compactItems (next :: rest)

/-- The compact text of the members of an object and its closing brace. -/
def compactMembers : List (String × Json) → List Char
  | [] => ['\x7d']
  | [(key, value)] => stringChars key ++ ':' :: (compactChars value ++ ['\x7d'])
  | (key, value) :: next :: rest =>
    stringChars key ++ ':' :: (compactChars value ++ ',' :: compactMembers (next :: rest))

end

/-- The compact text of a value as a string. -/
def compact (j : Json) : String := String.ofList (compactChars j)

/-- A line break followed by the blanks of a nesting depth. -/
def newline (depth : Nat) : List Char := '\n' :: List.replicate (2 * depth) ' '

mutual

/-- The indented text of a value at a nesting depth. -/
def indentedChars (depth : Nat) : Json → List Char
  | null => "null".toList
  | bool true => "true".toList
  | bool false => "false".toList
  | int i => (toString i).toList
  | number x => numberChars x
  | string s => stringChars s
  | array [] => ['[', ']']
  | array (item :: rest) => '[' :: indentedItems (depth + 1) (item :: rest)
  | object [] => ['\x7b', '\x7d']
  | object (member :: rest) => '\x7b' :: indentedMembers (depth + 1) (member :: rest)
  | unusable => "null".toList

/-- The indented text of the items of an array at their depth, and its closing bracket. -/
def indentedItems (depth : Nat) : List Json → List Char
  | [] => newline (depth - 1) ++ [']']
  | [item] => newline depth ++ indentedChars depth item ++ newline (depth - 1) ++ [']']
  | item :: next :: rest =>
    newline depth ++ indentedChars depth item ++ ',' :: indentedItems depth (next :: rest)

/-- The indented text of the members of an object at their depth, and its closing brace. -/
def indentedMembers (depth : Nat) : List (String × Json) → List Char
  | [] => newline (depth - 1) ++ ['\x7d']
  | [(key, value)] =>
    newline depth ++ stringChars key ++ ':' :: ' ' :: indentedChars depth value
      ++ newline (depth - 1) ++ ['\x7d']
  | (key, value) :: next :: rest =>
    newline depth ++ stringChars key ++ ':' :: ' ' :: indentedChars depth value
      ++ ',' :: indentedMembers depth (next :: rest)

end

/-- The indented text of a value as a string. -/
def indented (j : Json) : String := String.ofList (indentedChars 0 j)

end Handoff.Json
