import Handoff.Toml.Scalar
import Handoff.Toml.Table
import Handoff.Toml.Text

/-!
# Reading TOML text

A document is read line by line. A line is blank, sets a value, or is the header of the table that the
following lines fill. Values are strings, scalars, arrays, which may go over several lines, and inline
tables, which may not. Arrays and inline tables cannot be nested too deeply. The recursion is bounded by
fuel, and two steps a character always suffice.
-/

namespace Handoff.Toml

/-- The key and the equals sign at the start of a text, and the rest. -/
def keyAndSign? (s : List Char) : Option (List String × List Char) := do
  let (key, rest) ← key? s
  match skipBlanks rest with
  | '=' :: rest => return (key, skipBlanks rest)
  | _ => none

mutual

/-- The value at the start of a text, and the rest. It may hold so many levels of arrays and tables. -/
def value? : Nat → Nat → List Char → Option (Json × List Char)
  | 0, _, _ => none
  | fuel + 1, levels, s =>
    match s with
    | '[' :: rest =>
      match levels with
      | 0 => none
      | levels + 1 => do
        let (items, rest) ← items? fuel levels rest
        return (.array items, rest)
    | '\x7b' :: rest =>
      match levels, skipBlanks rest with
      | 0, _ => none
      | _, '\x7d' :: rest => some (.object [], rest)
      | levels + 1, rest => do
        let (entries, rest) ← assignments? fuel levels [] rest
        return (.object (membersOf entries), rest)
    | '"' :: _ => (string? s).map fun r => (.string r.1, r.2)
    | '\'' :: _ => (string? s).map fun r => (.string r.1, r.2)
    | s =>
      let (word, rest) := scalarWord s
      (scalar word).map (·, rest)

/-- The items of an array after its opening bracket or a comma, and the text after the closing
bracket. -/
def items? : Nat → Nat → List Char → Option (List Json × List Char)
  | 0, _, _ => none
  | fuel + 1, levels, s => do
    match ← skipFiller false s with
    | ']' :: rest => return ([], rest)
    | s =>
      let (item, rest) ← value? fuel levels s
      match ← skipFiller false rest with
      | ',' :: rest =>
        let (items, rest) ← items? fuel levels rest
        return (item :: items, rest)
      | ']' :: rest => return ([item], rest)
      | _ => none

/-- The assignments of an inline table added to entries, and the text after the closing brace. -/
def assignments? : Nat → Nat → Entries → List Char → Option (Entries × List Char)
  | 0, _, _, _ => none
  | fuel + 1, levels, es, s => do
    let (key, rest) ← keyAndSign? s
    let (value, rest) ← value? fuel levels rest
    let es ← es.set? key value
    match skipBlanks rest with
    | ',' :: rest => assignments? fuel levels es rest
    | '\x7d' :: rest => return (es, rest)
    | _ => none

end

/-- A document so far, and the path of the table that is being filled. -/
structure Draft where
  entries : Entries := []
  path : List String := []

/-- Go on with the table of a header. -/
def Draft.enter? (d : Draft) (path : List String) (f : String → Entries → Option Entries) :
    Option Draft := do
  let key ← path.getLast?
  let entries ← Entries.update? (f key) path.dropLast d.entries
  return { entries, path }

/-- The path in a header after its brackets, and the rest. -/
def header? (closing : List Char) (s : List Char) : Option (List String × List Char) := do
  let (path, rest) ← key? s
  let rest := skipBlanks rest
  if closing.isPrefixOf rest then return (path, rest.drop closing.length) else none

/-- Read one line. -/
def line? (fuel : Nat) (d : Draft) (s : List Char) : Option (Draft × List Char) :=
  match skipBlanks s with
  | [] => some (d, [])
  | '\n' :: rest => some (d, rest)
  | '\r' :: '\n' :: rest => some (d, rest)
  | '#' :: rest => (skipComment rest).map (d, ·)
  | '[' :: '[' :: rest => do
    let (path, rest) ← header? [']', ']'] rest
    return (← d.enter? path Entries.extend?, ← endLine? rest)
  | '[' :: rest => do
    let (path, rest) ← header? [']'] rest
    return (← d.enter? path Entries.define?, ← endLine? rest)
  | s => do
    let (key, rest) ← keyAndSign? s
    let (value, rest) ← value? fuel levelLimit rest
    let entries ← Entries.update? (Entries.set? key value) d.path d.entries
    return ({ d with entries }, ← endLine? rest)

/-- Read all lines. -/
def lines? : Nat → Draft → List Char → Option Draft
  | _, d, [] => some d
  | 0, _, _ => none
  | fuel + 1, d, s => do
    let (d, rest) ← line? (fuel + 1) d s
    lines? fuel d rest

/-- A text without the mark that shows the order of bytes. -/
def dropByteOrderMark : List Char → List Char
  | c :: rest => if c.toNat = 0xFEFF then rest else c :: rest
  | [] => []

/-- The object that a TOML text denotes. -/
def parse? (text : String) : Option Json :=
  let s := dropByteOrderMark text.toList
  (lines? (2 * s.length + 2) {} s).map fun d => .object (membersOf d.entries)

end Handoff.Toml
