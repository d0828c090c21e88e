import Handoff.Json.Basic
import Handoff.Number.Nearest
import Handoff.Text.HexDigit

/-!
# Numbers and dates of TOML text

A scalar that is no string is a word of letters, digits and a few signs. It is a truth value, an
integer of 64 bits in one of four bases, a number with a fraction or an exponent, or a date with or
without a time. No setting takes a number with a fraction, so it only matters that it is well-formed. A
date stands for a table that holds its text.
-/

namespace Handoff.Toml

/-- Whether a character may stand in a scalar word. -/
def isScalarChar (c : Char) : Bool :=
  c.isAlphanum || c = '+' || c = '-' || c = '_' || c = '.' || c = ':'

/-- The digits of a numeral without the underscores between them; an underscore needs a digit on both
sides. -/
def groupedDigits? (isDigit : Char → Bool) : List Char → Option (List Char)
  | [] => none
  | [c] => if isDigit c then some [c] else none
  | c :: '_' :: rest => if isDigit c then (groupedDigits? isDigit rest).map (c :: ·) else none
  | c :: rest => if isDigit c then (groupedDigits? isDigit rest).map (c :: ·) else none

/-- The sign of a numeral and what follows it. -/
def signed : List Char → Bool × List Char
  | '-' :: rest => (true, rest)
  | '+' :: rest => (false, rest)
  | s => (false, s)

/-- A decimal numeral: no leading zero, no other character than digits and underscores. -/
def decimal? (s : List Char) : Option (List Char) :=
  match groupedDigits? Char.isDigit s with
  | some ('0' :: _ :: _) => none
  | digits => digits

/-- An integer that fits in 64 bits with a sign. -/
def word? (i : Int) : Option Int :=
  if -(Nat.pow 2 63 : Int) ≤ i ∧ i < (Nat.pow 2 63 : Int) then some i else none

/-- The integer of a numeral in a base other than ten, which has no sign. -/
def based? (base : Nat) (isDigit : Char → Bool) (s : List Char) : Option Int :=
  (groupedDigits? isDigit s).bind fun digits => word? (Text.digitsNumber base digits)

/-- The integer that a word denotes. -/
def integer? : List Char → Option Int
  | '0' :: 'x' :: rest => based? 16 (fun c => (Text.hexValue? c).isSome) rest
  | '0' :: 'o' :: rest => based? 8 (fun c => '0' ≤ c ∧ c ≤ '7') rest
  | '0' :: 'b' :: rest => based? 2 (fun c => c = '0' ∨ c = '1') rest
  | s =>
    let (negative, digits) := signed s
    (decimal? digits).bind fun digits =>
      let n : Int := Text.digitsNumber 10 digits
      word? (if negative then -n else n)

/-- Whether a character opens an exponent. -/
def opensExponent (c : Char) : Bool := c = 'e' || c = 'E'

/-- The exponent that a text denotes, without its letter. -/
def exponent? (s : List Char) : Option Int :=
  let (negative, digits) := signed s
  (groupedDigits? Char.isDigit digits).map fun digits =>
    let n : Int := Text.digitsNumber 10 digits
    if negative then -n else n

/-- The digits of a fraction without its point, and the exponent that may follow them. -/
def fraction? (s : List Char) : Option (List Char × Int) := do
  let digits ← groupedDigits? Char.isDigit (s.takeWhile (!opensExponent ·))
  match s.dropWhile (!opensExponent ·) with
  | [] => return (digits, 0)
  | _ :: exponent => return (digits, ← exponent? exponent)

/-- The numeral of a word with a fraction or an exponent. -/
def numeral? (s : List Char) : Option Numeral := do
  let (negative, body) := signed s
  let isWhole (c : Char) : Bool := c ≠ '.' && !opensExponent c
  let whole ← decimal? (body.takeWhile isWhole)
  match body.dropWhile isWhole with
  | '.' :: rest =>
    let (fraction, exponent) ← fraction? rest
    return { negative, whole, fraction, exponent }
  | _ :: rest => return { negative, whole, fraction := [], exponent := ← exponent? rest }
  | [] => none

/-- Whether a word is an infinity or no number. -/
def isSpecial (s : List Char) : Bool :=
  let body := (signed s).2
  body = "inf".toList || body = "nan".toList

/-- Whether a word is a number with a fraction or an exponent, an infinity or no number. A positive
number may not be too large for the finite range; a negative one may. -/
def isFloat (s : List Char) : Bool :=
  isSpecial s || ((numeral? s).map fun n => n.negative || n.nearest?.isSome).getD false

/-- The value of two digits. -/
def twoDigits? (a b : Char) : Option Nat :=
  if a.isDigit ∧ b.isDigit then some (Text.digitsNumber 10 [a, b]) else none

/-- The number of days in a month. -/
def daysIn (year month : Nat) : Nat :=
  if month = 2 then if year % 4 = 0 ∧ (year % 100 ≠ 0 ∨ year % 400 = 0) then 29 else 28
  else if month = 4 ∨ month = 6 ∨ month = 9 ∨ month = 11 then 30
  else 31

/-- What follows the date at the start of a text. -/
def afterDate? : List Char → Option (List Char)
  | a :: b :: c :: d :: '-' :: e :: f :: '-' :: g :: h :: rest => do
    let year := 100 * (← twoDigits? a b) + (← twoDigits? c d)
    let month ← twoDigits? e f
    let day ← twoDigits? g h
    if 1 ≤ month ∧ month ≤ 12 ∧ 1 ≤ day ∧ day ≤ daysIn year month then some rest else none
  | _ => none

/-- What follows the time at the start of a text. -/
def afterTime? : List Char → Option (List Char)
  | a :: b :: ':' :: c :: d :: ':' :: e :: f :: rest => do
    let hour ← twoDigits? a b
    let minute ← twoDigits? c d
    let second ← twoDigits? e f
    if hour ≤ 23 ∧ minute ≤ 59 ∧ second ≤ 60 then
      match rest with
      | '.' :: rest =>
        if (rest.takeWhile Char.isDigit).isEmpty then none else some (rest.dropWhile Char.isDigit)
      | rest => some rest
    else none
  | _ => none

/-- Whether a text is an offset from universal time, or nothing. -/
def isOffset : List Char → Bool
  | [] => true
  | ['Z'] => true
  | ['z'] => true
  | [sign, a, b, ':', c, d] =>
    (sign = '+' || sign = '-')
      && match twoDigits? a b, twoDigits? c d with
        | some hour, some minute => hour ≤ 23 && minute ≤ 59
        | _, _ => false
  | _ => false

/-- Whether a word is a date, a time, or a date and a time with an offset. -/
def isDate (s : List Char) : Bool :=
  match afterDate? s with
  | some [] => true
  | some (mark :: rest) =>
    (mark = 'T' || mark = 't' || mark = ' ') && ((afterTime? rest).map isOffset).getD false
  | none => afterTime? s == some []

/-- The word at the start of a text and the rest. A date may have a blank before its time. -/
def scalarWord (s : List Char) : List Char × List Char :=
  let word := s.takeWhile isScalarChar
  let rest := s.dropWhile isScalarChar
  match afterDate? word, rest with
  | some [], ' ' :: a :: rest' =>
    if a.isDigit then
      (word ++ ' ' :: (a :: rest').takeWhile isScalarChar, (a :: rest').dropWhile isScalarChar)
    else (word, rest)
  | _, _ => (word, rest)

/-- The table that a date stands for. -/
def dateTable (word : List Char) : Json := .object [("date", .string (String.ofList word))]

/-- The value of a word. Numbers with a fraction have no use in settings. -/
def scalar (word : List Char) : Option Json :=
  if word = "true".toList then some (.bool true)
  else if word = "false".toList then some (.bool false)
  else
    match integer? word with
    | some i => some (.int i)
    | none =>
      if isFloat word then some .unusable
      else if isDate word then some (dateTable word)
      else none

end Handoff.Toml
