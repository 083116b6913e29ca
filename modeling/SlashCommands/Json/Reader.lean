import SlashCommands.Json.Number
import SlashCommands.Json.Quoted

/-!
# Reading JSON

`read?` accepts the texts of the JSON grammar and nothing else: no byte-order mark, comment or
trailing comma.  What is spelled right and denotes no value becomes `Datum.void`: numbers beyond
the doubles, strings with half a surrogate pair, tables with such a key, and what is nested deeper
than `depthLimit`.
-/

namespace SlashCommands.Json

/-- Lists and tables are values down to this depth. -/
def depthLimit : Nat := 127

/-- Holds of the blanks between tokens. -/
def isSpace (c : Char) : Bool :=
  c == ' ' || c == '\t' || c == '\n' || c == '\r'

/-- What follows the blanks at the front. -/
def skipSpace (s : List Char) : List Char :=
  s.dropWhile isSpace

/-- What follows a word at the front. -/
def word? (word : String) (s : List Char) : Option (List Char) :=
  if word.toList.isPrefixOf s then some (s.drop word.length) else none

/-- A list or table at some depth, counted from one. -/
def atDepth (depth : Nat) (value : Datum) : Datum :=
  if depth ≤ depthLimit then value else .void

/-- The table of entries whose keys may be missing. -/
def tableOf (entries : List (Option String × Datum)) : Datum :=
  match entries.mapM fun entry => entry.1.map (·, entry.2) with
  | some entries => .table entries
  | none => .void

mutual

/-- Reads a value; `depth` counts the lists and tables around it. -/
def readValue? (fuel depth : Nat) (s : List Char) : Option (Datum × List Char) :=
  match fuel with
  | 0 => none
  | fuel + 1 =>
    match s with
    | 'n' :: _ => (word? "null" s).map (.null, ·)
    | 't' :: _ => (word? "true" s).map (.bool true, ·)
    | 'f' :: _ => (word? "false" s).map (.bool false, ·)
    | '"' :: rest =>
      (readString? rest).map fun (text, rest) =>
        (match text with
          | some text => .text text
          | none => .void, rest)
    | '[' :: rest =>
      match skipSpace rest with
      | ']' :: rest => some (atDepth (depth + 1) (.list []), rest)
      | rest =>
        (readItems? fuel (depth + 1) rest).map fun (items, rest) =>
          (atDepth (depth + 1) (.list items), rest)
    | '{' :: rest =>
      match skipSpace rest with
      | '}' :: rest => some (atDepth (depth + 1) (.table []), rest)
      | rest =>
        (readEntries? fuel (depth + 1) rest).map fun (entries, rest) =>
          (atDepth (depth + 1) (tableOf entries), rest)
    | s => readNumber? s

/-- Reads the items of a list, of which there is one at least, and the closing bracket. -/
def readItems? (fuel depth : Nat) (s : List Char) : Option (List Datum × List Char) :=
  match fuel with
  | 0 => none
  | fuel + 1 => do
    let (item, rest) ← readValue? fuel depth s
    match skipSpace rest with
    | ']' :: rest => some ([item], rest)
    | ',' :: rest =>
      let (items, rest) ← readItems? fuel depth (skipSpace rest)
      some (item :: items, rest)
    | _ => none

/-- Reads the entries of a table, of which there is one at least, and the closing brace. -/
def readEntries? (fuel depth : Nat) (s : List Char) :
    Option (List (Option String × Datum) × List Char) :=
  match fuel with
  | 0 => none
  | fuel + 1 =>
    match s with
    | '"' :: rest => do
      let (key, rest) ← readString? rest
      match skipSpace rest with
      | ':' :: rest =>
        let (value, rest) ← readValue? fuel depth (skipSpace rest)
        match skipSpace rest with
        | '}' :: rest => some ([(key, value)], rest)
        | ',' :: rest =>
          let (entries, rest) ← readEntries? fuel depth (skipSpace rest)
          some ((key, value) :: entries, rest)
        | _ => none
      | _ => none
    | _ => none

end

/-- Reads a JSON text.  Each pair of steps takes a character, so the fuel is enough. -/
def read? (text : String) : Option Datum :=
  let s := skipSpace text.toList
  match readValue? (2 * s.length + 2) 0 s with
  | some (value, rest) => if (skipSpace rest).isEmpty then some value else none
  | none => none

end SlashCommands.Json
