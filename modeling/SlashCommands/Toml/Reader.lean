import SlashCommands.Toml.Scalar
import SlashCommands.Toml.Text
import SlashCommands.Toml.Tree

/-!
# Reading TOML

A document is a sequence of lines: keys with values, headers of tables, comments and empty lines.
`read?` collects the lines under each header into a section and builds the tables of the document
from the sections in order.
-/

namespace SlashCommands.Toml

/-- Values and key paths are refused from this depth on. -/
def depthLimit : Nat := 80

/-- What follows a comment at the front, if there is one. -/
def skipComment : List Char → List Char
  | '#' :: rest => rest.dropWhile isPlain
  | rest => rest

/-- What follows the end of a line: blanks, a comment, and a line break or the end of the text. -/
def endLine? (s : List Char) : Option (List Char) :=
  match skipComment (skipSpace s) with
  | [] => some []
  | rest => newline? rest

/-- What follows blanks, line breaks and comments that end in line breaks. -/
def skipBlankLines (fuel : Nat) (s : List Char) : List Char :=
  match fuel with
  | 0 => s
  | fuel + 1 =>
    let s := skipSpace s
    match newline? (skipComment s) with
    | some rest => skipBlankLines fuel rest
    | none => s

/-- Holds of the characters of keys without quotes. -/
def isBareKeyChar (c : Char) : Bool :=
  c.isAlphanum || c == '_' || c == '-'

/-- Reads one key: bare, or between quotes. -/
def readSimpleKey? : List Char → Option (String × List Char)
  | '"' :: rest => readQuoted? '"' rest
  | '\'' :: rest => readQuoted? '\'' rest
  | s =>
    let key := s.takeWhile isBareKeyChar
    if key.isEmpty then none else some (String.ofList key, s.dropWhile isBareKeyChar)

/-- Reads keys with points between them, up to some number of keys. -/
def readKeys? (fuel : Nat) (s : List Char) : Option (List String × List Char) :=
  match fuel with
  | 0 => none
  | fuel + 1 => do
    let (key, rest) ← readSimpleKey? (skipSpace s)
    match skipSpace rest with
    | '.' :: rest =>
      let (keys, rest) ← readKeys? fuel rest
      return (key :: keys, rest)
    | rest => return ([key], rest)

/-- Splits a list of keys into the path and the last key. -/
def keyPath? (keys : List String) : Option KeyPath :=
  keys.getLast?.map fun key => ⟨keys.dropLast, key⟩

/-- Reads a key path with the blanks around it. -/
def readKeyPath? (s : List Char) : Option (KeyPath × List Char) := do
  let (keys, rest) ← readKeys? (depthLimit - 1) s
  return (← keyPath? keys, rest)

/-- The table between braces with these entries. -/
def inlineTable? (values : List (KeyPath × Datum)) : Option Datum :=
  (addValues [] values).map fun entries => .table (entriesData entries)

mutual

/-- Reads a value; `depth` counts the arrays and tables around it. -/
def readValue? (fuel depth : Nat) (s : List Char) : Option (Datum × List Char) :=
  match fuel with
  | 0 => none
  | fuel + 1 =>
    match s with
    | '"' :: _ | '\'' :: _ => (readString? s).map fun (text, rest) => (.text text, rest)
    | '[' :: rest =>
      if depth + 1 < depthLimit then
        (readItems? fuel (depth + 1) (skipBlankLines rest.length rest)).map fun (items, rest) =>
          (.list items, rest)
      else none
    | '\x7b' :: rest =>
      if depth + 1 < depthLimit then do
        let (values, rest) ←
          match skipSpace rest with
          | '\x7d' :: rest => some ([], rest)
          | rest => readPairs? fuel (depth + 1) rest
        return (← inlineTable? values, rest)
      else none
    | 't' :: 'r' :: 'u' :: 'e' :: rest => some (.bool true, rest)
    | 'f' :: 'a' :: 'l' :: 's' :: 'e' :: rest => some (.bool false, rest)
    | s => readScalar? s

/-- Reads the items of an array and its closing bracket. -/
def readItems? (fuel depth : Nat) (s : List Char) : Option (List Datum × List Char) :=
  match fuel with
  | 0 => none
  | fuel + 1 =>
    match s with
    | ']' :: rest => some ([], rest)
    | s => do
      let (item, rest) ← readValue? fuel depth s
      match skipBlankLines rest.length rest with
      | ',' :: rest =>
        let (items, rest) ← readItems? fuel depth (skipBlankLines rest.length rest)
        return (item :: items, rest)
      | ']' :: rest => return ([item], rest)
      | _ => none

/-- Reads the pairs of a table between braces, of which there is one at least, and the closing
brace. -/
def readPairs? (fuel depth : Nat) (s : List Char) :
    Option (List (KeyPath × Datum) × List Char) :=
  match fuel with
  | 0 => none
  | fuel + 1 => do
    let (key, rest) ← readKeyPath? s
    let rest ← readMark? '=' rest
    let (value, rest) ← readValue? fuel depth (skipSpace rest)
    match skipSpace rest with
    | ',' :: rest =>
      let (pairs, rest) ← readPairs? fuel depth rest
      return ((key, value) :: pairs, rest)
    | '\x7d' :: rest => return ([(key, value)], rest)
    | _ => none

end

/-- A line of a document that is not empty. -/
inductive Line
  | pair (key : KeyPath) (value : Datum)
  | table (key : KeyPath)
  | element (key : KeyPath)

/-- Reads a line that is not empty. -/
def readLineItem? : List Char → Option (Line × List Char)
  | '[' :: '[' :: rest => do
    let (key, rest) ← readKeyPath? rest
    let rest ← readMark? ']' rest
    let rest ← readMark? ']' rest
    return (.element key, ← endLine? rest)
  | '[' :: rest => do
    let (key, rest) ← readKeyPath? rest
    let rest ← readMark? ']' rest
    return (.table key, ← endLine? rest)
  | s => do
    let (key, rest) ← readKeyPath? s
    let rest ← readMark? '=' rest
    let (value, rest) ← readValue? (2 * rest.length + 2) 0 (skipSpace rest)
    return (.pair key value, ← endLine? rest)

/-- Reads the lines of a document. -/
def readLineItems? (fuel : Nat) (s : List Char) : Option (List Line) :=
  match fuel with
  | 0 => none
  | fuel + 1 =>
    match skipComment (skipSpace s) with
    | [] => some []
    | rest =>
      match newline? rest with
      | some rest => readLineItems? fuel rest
      | none => do
        let (line, rest) ← readLineItem? (skipSpace s)
        return line :: (← readLineItems? fuel rest)

/-- The values of the lines at the front that have some, and the lines that follow. -/
def takePairs : List Line → List (KeyPath × Datum) × List Line
  | .pair key value :: rest =>
    let (pairs, rest) := takePairs rest
    ((key, value) :: pairs, rest)
  | rest => ([], rest)

/-- Adds the sections of a document. -/
def addSections (fuel : Nat) (root : Entries) (lines : List Line) : Option Entries :=
  match fuel, lines with
  | _, [] => some root
  | 0, _ => none
  | fuel + 1, line :: rest => do
    let (values, rest) := takePairs rest
    match line with
    | .pair .. => none
    | .table key => addSections fuel (← addTable key values root) rest
    | .element key => addSections fuel (← addElement key values root) rest

/-- The table of a document. -/
def build? (lines : List Line) : Option Entries := do
  let (values, rest) := takePairs lines
  addSections rest.length (← addValues [] values) rest

/-- Reads a document; a byte-order mark may lead. -/
def read? (text : String) : Option Datum := do
  let s := match text.toList with
    | '\ufeff' :: rest => rest
    | s => s
  let lines ← readLineItems? (s.length + 1) s
  let entries ← build? lines
  return .table (entriesData entries)

end SlashCommands.Toml
