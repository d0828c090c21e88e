import Handoff.Text.Case
import Handoff.Unicode.Letter

/-!
# Identifiers from design names

A design name is cut into words at every character that is neither a letter nor a number, and where a
small letter or a number meets a capital. Identifiers join the words: the camel form starts with a
small word, the Pascal form with a capitalized one. A name that would start with a digit gets a dollar
sign in front.
-/

namespace Handoff.Text

/-- Whether a capital letter after `c` starts a new word. -/
def endsLow (c : Char) : Bool :=
  Unicode.isLowercase c || Unicode.isNumeric c

/-- The pending word, kept backwards, as a list of at most one finished word. -/
def flushWord : List Char → List (List Char)
  | [] => []
  | pending => [pending.reverse]

/-- Cut the rest of a name into words. `pending` is the unfinished word backwards, and `low` says
whether a capital letter may end it. -/
def wordsFrom (pending : List Char) (low : Bool) : List Char → List (List Char)
  | [] => flushWord pending
  | c :: rest =>
    if Unicode.isAlphanumeric c then
      if Unicode.isUppercase c && low && !pending.isEmpty then
        pending.reverse :: wordsFrom [c] (endsLow c) rest
      else wordsFrom (c :: pending) (endsLow c) rest
    else flushWord pending ++ wordsFrom [] false rest

/-- The words of a name. -/
def words (s : List Char) : List (List Char) :=
  wordsFrom [] false s

/-- Put a dollar sign before a leading ASCII digit. -/
def guardDigit : List Char → List Char
  | [] => []
  | c :: rest => if c.isDigit then '$' :: c :: rest else c :: rest

/-- The camel form of a list of words. -/
def camelOfWords : List (List Char) → List Char
  | [] => []
  | first :: rest => lowercase first ++ rest.flatMap capitalize

/-- The words of a string. -/
def splitWords (s : String) : List String :=
  (words s.toList).map String.ofList

/-- The identifier of a name that starts with a small word, such as `primaryButton`. -/
def camelIdentifier (s : String) : String :=
  String.ofList (guardDigit (camelOfWords (words s.toList)))

/-- The identifier of a name with every word capitalized, such as `PrimaryButton`. -/
def pascalIdentifier (s : String) : String :=
  String.ofList (guardDigit ((words s.toList).flatMap capitalize))

/-- The identifier of a component property: what precedes the first number sign of its key. -/
def propertyIdentifier (key : String) : String :=
  camelIdentifier (String.ofList (key.toList.takeWhile (· ≠ '#')))

end Handoff.Text
