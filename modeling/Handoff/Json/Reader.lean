import Handoff.Json.Basic
import Handoff.Number.Scaled
import Handoff.Text.HexDigit

/-!
# Reading JSON text

The reader accepts exactly the JSON grammar: no comments, no trailing commas, no leading zeros, no raw
control characters in strings, and nothing but blanks around the one value. Every step returns the rest
of its text. The recursion is bounded by fuel, and a budget of two steps a character always suffices.
What is nested too deeply has to be grammatical, but is not usable.
-/

namespace Handoff.Json

/-- The blanks between tokens. -/
def isBlank (c : Char) : Bool := c = ' ' || c = '\n' || c = '\t' || c = '\r'

/-- A text without leading blanks. -/
def skipBlanks (s : List Char) : List Char := s.dropWhile isBlank

/-- The code unit of four hexadecimal digits. -/
def codeUnit? (a b c d : Char) : Option Nat := do
  let a ← Text.hexValue? a
  let b ← Text.hexValue? b
  let c ← Text.hexValue? c
  let d ← Text.hexValue? d
  return 4096 * a + 256 * b + 16 * c + d

/-- The character that a one-letter escape stands for. -/
def simpleEscape? : Char → Option Char
  | '"' => some '"'
  | '\\' => some '\\'
  | '/' => some '/'
  | 'b' => some (Char.ofNat 8)
  | 'f' => some (Char.ofNat 12)
  | 'n' => some '\n'
  | 'r' => some '\r'
  | 't' => some '\t'
  | _ => none

/-- The code points and code units of a string up to its closing quote, and the rest of the text. -/
def stringUnits : List Char → Option (List Nat × List Char)
  | [] => none
  | '"' :: rest => some ([], rest)
  | '\\' :: 'u' :: a :: b :: c :: d :: rest => do
    let unit ← codeUnit? a b c d
    let (units, rest) ← stringUnits rest
    return (unit :: units, rest)
  | '\\' :: letter :: rest => do
    let c ← simpleEscape? letter
    let (units, rest) ← stringUnits rest
    return (c.toNat :: units, rest)
  | c :: rest =>
    if c.toNat < 32 ∨ c = '\\' then none
    else do
      let (units, rest) ← stringUnits rest
      return (c.toNat :: units, rest)

/-- Whether a code unit opens a surrogate pair. -/
def isHighSurrogate (n : Nat) : Bool := 0xD800 ≤ n && n ≤ 0xDBFF

/-- Whether a code unit closes a surrogate pair. -/
def isLowSurrogate (n : Nat) : Bool := 0xDC00 ≤ n && n ≤ 0xDFFF

/-- Join surrogate pairs; a surrogate without its partner denotes nothing. -/
def joinUnits? : List Nat → Option (List Char)
  | [] => some []
  | [n] => if isHighSurrogate n || isLowSurrogate n then none else some [Char.ofNat n]
  | n :: m :: rest =>
    if isHighSurrogate n then
      if isLowSurrogate m then
        (joinUnits? rest).map (Char.ofNat (0x10000 + (n - 0xD800) * 0x400 + (m - 0xDC00)) :: ·)
      else none
    else if isLowSurrogate n then none
    else (joinUnits? (m :: rest)).map (Char.ofNat n :: ·)

/-- The content of a string after its opening quote, if it denotes one, and the rest of the text. -/
def stringBody (s : List Char) : Option (Option String × List Char) := do
  let (units, rest) ← stringUnits s
  return ((joinUnits? units).map String.ofList, rest)

/-- The integer of a numeral without point and exponent, if it fits in a machine word. -/
def wordInt? (negative : Bool) (n : Nat) : Option Int :=
  if negative then if 0 < n ∧ n ≤ Nat.pow 2 63 then some (-(n : Int)) else none
  else if n < Nat.pow 2 64 then some n else none

/-- The digits at the front of a text, and the rest. -/
def takeDigitChars (s : List Char) : List Char × List Char :=
  (s.takeWhile Char.isDigit, s.dropWhile Char.isDigit)

/-- The fraction of a numeral, if there is one; a point needs a digit after it. -/
def fraction? : List Char → Option (Option (List Char) × List Char)
  | '.' :: rest =>
    match takeDigitChars rest with
    | ([], _) => none
    | (digits, rest) => some (some digits, rest)
  | s => some (none, s)

/-- The digits of an exponent as a number; there must be one. -/
def exponentDigits? (s : List Char) : Option (Nat × List Char) :=
  match takeDigitChars s with
  | ([], _) => none
  | (digits, rest) => some (digitsValue digits, rest)

/-- The exponent of a numeral, if there is one. -/
def exponent? : List Char → Option (Option Int × List Char)
  | c :: rest =>
    if c = 'e' ∨ c = 'E' then
      match rest with
      | '-' :: rest => (exponentDigits? rest).map fun (n, rest) => (some (-(n : Int)), rest)
      | '+' :: rest => (exponentDigits? rest).map fun (n, rest) => (some (n : Int), rest)
      | rest => (exponentDigits? rest).map fun (n, rest) => (some (n : Int), rest)
    else some (none, c :: rest)
  | [] => some (none, [])

/-- The value of a numeral given by its parts. -/
def ofNumeral (negative : Bool) (whole : List Char) (fraction : Option (List Char))
    (exponent : Option Int) : Json :=
  let general :=
    match Numeral.value? ⟨negative, whole, fraction.getD [], exponent.getD 0⟩ with
    | some x => number x
    | none => unusable
  match fraction, exponent with
  | none, none =>
    match wordInt? negative (digitsValue whole) with
    | some i => int i
    | none => general
  | _, _ => general

/-- A numeral without its sign. -/
def magnitude? (negative : Bool) (s : List Char) : Option (Json × List Char) := do
  let (whole, rest) := takeDigitChars s
  if whole = [] ∨ (whole.head? = some '0' ∧ 1 < whole.length) then none
  else
    let (fraction, rest) ← fraction? rest
    let (exponent, rest) ← exponent? rest
    return (ofNumeral negative whole fraction exponent, rest)

/-- A numeral. -/
def numeral? : List Char → Option (Json × List Char)
  | '-' :: rest => magnitude? true rest
  | s => magnitude? false s

/-- The object of a list of members; a key that denotes nothing spoils it. -/
def ofMembers (members : List (Option String × Json)) : Json :=
  match members.mapM (fun m => m.1.map (·, m.2)) with
  | some members => object members
  | none => unusable

mutual

/-- One value at the front of a text. -/
def readValue? : Nat → List Char → Option (Json × List Char)
  | 0, _ => none
  | fuel + 1, s =>
    match skipBlanks s with
    | '"' :: rest =>
      (stringBody rest).map fun (content, rest) =>
        (match content with
          | some s => string s
          | none => unusable, rest)
    | '[' :: rest =>
      match skipBlanks rest with
      | ']' :: rest => some (array [], rest)
      | rest => (readItems? fuel rest).map fun (items, rest) => (array items, rest)
    | '\x7b' :: rest =>
      match skipBlanks rest with
      | '\x7d' :: rest => some (object [], rest)
      | rest => (readMembers? fuel rest).map fun (members, rest) => (ofMembers members, rest)
    | 'n' :: 'u' :: 'l' :: 'l' :: rest => some (null, rest)
    | 't' :: 'r' :: 'u' :: 'e' :: rest => some (bool true, rest)
    | 'f' :: 'a' :: 'l' :: 's' :: 'e' :: rest => some (bool false, rest)
    | rest => numeral? rest

/-- The items of an array, at least one, and its closing bracket. -/
def readItems? : Nat → List Char → Option (List Json × List Char)
  | 0, _ => none
  | fuel + 1, s => do
    let (item, rest) ← readValue? fuel s
    match skipBlanks rest with
    | ',' :: rest =>
      let (items, rest) ← readItems? fuel rest
      return (item :: items, rest)
    | ']' :: rest => return ([item], rest)
    | _ => none

/-- The members of an object, at least one, and its closing brace. -/
def readMembers? : Nat → List Char → Option (List (Option String × Json) × List Char)
  | 0, _ => none
  | fuel + 1, s =>
    match skipBlanks s with
    | '"' :: rest => do
      let (key, rest) ← stringBody rest
      match skipBlanks rest with
      | ':' :: rest =>
        let (value, rest) ← readValue? fuel rest
        match skipBlanks rest with
        | ',' :: rest =>
          let (members, rest) ← readMembers? fuel rest
          return ((key, value) :: members, rest)
        | '\x7d' :: rest => return ([(key, value)], rest)
        | _ => none
      | _ => none
    | _ => none

end

/-- Read a text that holds one value, however deep. -/
def parseDeep? (s : String) : Option Json :=
  let chars := s.toList
  match readValue? (2 * chars.length + 2) chars with
  | some (value, rest) => if skipBlanks rest = [] then some value else none
  | none => none

/-- Read a text that holds one value. -/
def parse? (s : String) : Option Json := (parseDeep? s).map (bounded levelLimit)

/-- The members of an object after its opening brace or a comma, each with the text of its value. -/
def memberTextsFrom? : Nat → List Char → Option (List (String × String))
  | 0, _ => none
  | fuel + 1, s =>
    match skipBlanks s with
    | '"' :: rest => do
      let (key, rest) ← stringBody rest
      match skipBlanks rest with
      | ':' :: rest =>
        let text := skipBlanks rest
        let (_, rest) ← readValue? (2 * text.length + 2) text
        let member := (← key, String.ofList (text.take (text.length - rest.length)))
        match skipBlanks rest with
        | ',' :: rest => return member :: (← memberTextsFrom? fuel rest)
        | _ => return [member]
      | _ => none
    | _ => some []

/-- The members of an object, each with the text of its value. -/
def memberTexts? (s : String) : Option (List (String × String)) :=
  match skipBlanks s.toList with
  | '\x7b' :: rest => memberTextsFrom? (rest.length + 1) rest
  | _ => none

end Handoff.Json
