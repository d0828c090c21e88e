import Handoff.Text.HexDigit

/-!
# Blanks, strings and keys of TOML text

Blanks are spaces and tabs; line ends are line feeds, which a carriage return may precede; a comment
goes from a hash to the end of its line. Strings come in four forms: with escapes or literal, on one
line or on several. A key is a dotted path of bare words and strings, and cannot be too deep.
-/

namespace Handoff.Toml

/-- Whether a character is a blank inside a line. -/
def isBlank (c : Char) : Bool := c = ' ' || c = '\t'

/-- Whether a character may stand in strings and comments: no control character except the tab. -/
def isPrintable (c : Char) : Bool := c = '\t' || 0x20 ≤ c.toNat && c.toNat ≠ 0x7F

/-- A text without leading blanks. -/
def skipBlanks (s : List Char) : List Char := s.dropWhile isBlank

/-- The text after the line end that a comment runs to. -/
def skipComment : List Char → Option (List Char)
  | [] => some []
  | '\n' :: rest => some rest
  | '\r' :: '\n' :: rest => some rest
  | c :: rest => if isPrintable c then skipComment rest else none

/-- The text after the end of a line that has nothing more to say. -/
def endLine? (s : List Char) : Option (List Char) :=
  match skipBlanks s with
  | [] => some []
  | '\n' :: rest => some rest
  | '\r' :: '\n' :: rest => some rest
  | '#' :: rest => skipComment rest
  | _ => none

/-- The text after blanks, line ends and comments. -/
def skipFiller (inComment : Bool) : List Char → Option (List Char)
  | [] => some []
  | '\n' :: rest => skipFiller false rest
  | '\r' :: '\n' :: rest => skipFiller false rest
  | c :: rest =>
    if inComment then if isPrintable c then skipFiller true rest else none
    else if isBlank c then skipFiller false rest
    else if c = '#' then skipFiller true rest
    else some (c :: rest)

/-- The character of a code point, which must not be a surrogate. -/
def scalar? (n : Nat) : Option Char := if n.isValidChar then some (Char.ofNat n) else none

/-- The character of an escape by hexadecimal digits. -/
def hexEscape? (digits : List Char) : Option Char :=
  if digits.all (fun c => (Text.hexValue? c).isSome) then scalar? (Text.digitsNumber 16 digits)
  else none

/-- The character that a one-letter escape stands for. -/
def simpleEscape? : Char → Option Char
  | '"' => some '"'
  | '\\' => some '\\'
  | 'b' => some (Char.ofNat 8)
  | 'f' => some (Char.ofNat 12)
  | 'n' => some '\n'
  | 'r' => some '\r'
  | 't' => some '\t'
  | _ => none

/-- A string with a character in front, and the rest of the text. -/
def prepend (c : Char) (r : List Char × List Char) : List Char × List Char := (c :: r.1, r.2)

/-- The content of a one-line string with escapes, and the text after its closing quote. -/
def basicBody : List Char → Option (List Char × List Char)
  | [] => none
  | '"' :: rest => some ([], rest)
  | '\\' :: 'u' :: a :: b :: c :: d :: rest => do
    let x ← hexEscape? [a, b, c, d]
    return prepend x (← basicBody rest)
  | '\\' :: 'U' :: a :: b :: c :: d :: e :: f :: g :: h :: rest => do
    let x ← hexEscape? [a, b, c, d, e, f, g, h]
    return prepend x (← basicBody rest)
  | '\\' :: letter :: rest => do
    let x ← simpleEscape? letter
    return prepend x (← basicBody rest)
  | c :: rest => if isPrintable c ∧ c ≠ '\\' then (basicBody rest).map (prepend c) else none

/-- Whether nothing but blanks stands before the end of the line. -/
def isLineEnd (s : List Char) : Bool :=
  match skipBlanks s with
  | '\n' :: _ => true
  | '\r' :: '\n' :: _ => true
  | _ => false

/-- The content of a string of several lines with escapes, and the text after its closing quotes. A
backslash at the end of a line joins it to the next character that is neither a blank nor a line end;
`joining` says that this is going on. -/
def longBasicBody (joining : Bool) : List Char → Option (List Char × List Char)
  | [] => none
  | '"' :: '"' :: '"' :: '"' :: '"' :: rest => some (['"', '"'], rest)
  | '"' :: '"' :: '"' :: '"' :: rest => some (['"'], rest)
  | '"' :: '"' :: '"' :: rest => some ([], rest)
  | '\n' :: rest =>
    if joining then longBasicBody true rest else (longBasicBody false rest).map (prepend '\n')
  | '\r' :: '\n' :: rest =>
    if joining then longBasicBody true rest else (longBasicBody false rest).map (prepend '\n')
  | '\\' :: 'u' :: a :: b :: c :: d :: rest => do
    let x ← hexEscape? [a, b, c, d]
    return prepend x (← longBasicBody false rest)
  | '\\' :: 'U' :: a :: b :: c :: d :: e :: f :: g :: h :: rest => do
    let x ← hexEscape? [a, b, c, d, e, f, g, h]
    return prepend x (← longBasicBody false rest)
  | '\\' :: letter :: rest =>
    if isLineEnd (letter :: rest) then longBasicBody true (letter :: rest)
    else do
      let x ← simpleEscape? letter
      return prepend x (← longBasicBody false rest)
  | c :: rest =>
    if joining && isBlank c then longBasicBody true rest
    else if isPrintable c ∧ c ≠ '\\' then (longBasicBody false rest).map (prepend c)
    else none

/-- The content of a one-line literal string, and the text after its closing quote. -/
def literalBody : List Char → Option (List Char × List Char)
  | [] => none
  | '\'' :: rest => some ([], rest)
  | c :: rest => if isPrintable c then (literalBody rest).map (prepend c) else none

/-- The content of a literal string of several lines, and the text after its closing quotes. -/
def longLiteralBody : List Char → Option (List Char × List Char)
  | [] => none
  | '\'' :: '\'' :: '\'' :: '\'' :: '\'' :: rest => some (['\'', '\''], rest)
  | '\'' :: '\'' :: '\'' :: '\'' :: rest => some (['\''], rest)
  | '\'' :: '\'' :: '\'' :: rest => some ([], rest)
  | '\n' :: rest => (longLiteralBody rest).map (prepend '\n')
  | '\r' :: '\n' :: rest => (longLiteralBody rest).map (prepend '\n')
  | c :: rest => if isPrintable c then (longLiteralBody rest).map (prepend c) else none

/-- A text without a line end at its start. -/
def dropLineEnd : List Char → List Char
  | '\n' :: rest => rest
  | '\r' :: '\n' :: rest => rest
  | s => s

/-- The string at the start of a text, and the rest. -/
def string? : List Char → Option (String × List Char)
  | '"' :: '"' :: '"' :: rest =>
    (longBasicBody false (dropLineEnd rest)).map fun r => (String.ofList r.1, r.2)
  | '\'' :: '\'' :: '\'' :: rest =>
    (longLiteralBody (dropLineEnd rest)).map fun r => (String.ofList r.1, r.2)
  | '"' :: rest => (basicBody rest).map fun r => (String.ofList r.1, r.2)
  | '\'' :: rest => (literalBody rest).map fun r => (String.ofList r.1, r.2)
  | _ => none

/-- Whether a character may stand in a bare key. -/
def isBare (c : Char) : Bool := c.isAlphanum || c = '_' || c = '-'

/-- The part of a key at the start of a text, and the rest. -/
def keyPart? : List Char → Option (String × List Char)
  | '"' :: rest => (basicBody rest).map fun r => (String.ofList r.1, r.2)
  | '\'' :: rest => (literalBody rest).map fun r => (String.ofList r.1, r.2)
  | s =>
    match s.takeWhile isBare with
    | [] => none
    | word => some (String.ofList word, s.dropWhile isBare)

/-- The dotted key at the start of a text, which may have so many parts, and the rest. -/
def keyOf? : Nat → List Char → Option (List String × List Char)
  | 0, _ => none
  | parts + 1, s => do
    let (part, rest) ← keyPart? (skipBlanks s)
    match skipBlanks rest with
    | '.' :: rest =>
      let (more, rest) ← keyOf? parts rest
      return (part :: more, rest)
    | rest => return ([part], rest)

/-- How many parts a key may have, and how many arrays and tables may be nested in a value. -/
def levelLimit : Nat := 79

/-- The dotted key at the start of a text, and the rest. -/
def key? (s : List Char) : Option (List String × List Char) := keyOf? levelLimit s

end Handoff.Toml
