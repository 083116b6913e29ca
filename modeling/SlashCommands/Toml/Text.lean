import SlashCommands.Json.Quoted

/-!
# TOML strings

A string stands between single or double quotes, or between three of either, where it may have line
breaks.  Only between double quotes does a backslash escape anything.
-/

namespace SlashCommands.Toml

open Json (hexValue?)

/-- Holds of the blanks within a line. -/
def isSpace (c : Char) : Bool :=
  c == ' ' || c == '\t'

/-- What follows the blanks at the front. -/
def skipSpace (s : List Char) : List Char :=
  s.dropWhile isSpace

/-- What follows a line break at the front. -/
def newline? : List Char → Option (List Char)
  | '\n' :: rest => some rest
  | '\r' :: '\n' :: rest => some rest
  | _ => none

/-- Holds of the characters that stand for themselves in strings and comments: all but the control
characters, of which the tab is allowed. -/
def isPlain (c : Char) : Bool :=
  c == '\t' || (0x20 ≤ c.toNat && c.toNat != 0x7F)

/-- The character with a number, if there is one. -/
def charOf? (code : Nat) : Option Char :=
  if code.isValidChar then some (Char.ofNat code) else none

/-- Reads an escape past its backslash. -/
def readEscape? : List Char → Option (Char × List Char)
  | 'b' :: rest => some ('\x08', rest)
  | 't' :: rest => some ('\t', rest)
  | 'n' :: rest => some ('\n', rest)
  | 'f' :: rest => some ('\x0c', rest)
  | 'r' :: rest => some ('\r', rest)
  | '"' :: rest => some ('"', rest)
  | '\\' :: rest => some ('\\', rest)
  | 'u' :: rest => readCode? 4 rest
  | 'U' :: rest => readCode? 8 rest
  | _ => none
where
  /-- Reads the number of a character, with so many digits. -/
  readCode? (count : Nat) (rest : List Char) : Option (Char × List Char) :=
    if rest.length < count then none
    else (hexValue? (rest.take count)).bind charOf? |>.map (·, rest.drop count)

/-- Reads a string on one line past its opening quote. -/
def readLine? (quote : Char) (fuel : Nat) (s : List Char) : Option (List Char × List Char) :=
  match fuel, s with
  | 0, _ => none
  | _, [] => none
  | fuel + 1, c :: rest =>
    if c == quote then some ([], rest)
    else if c == '\\' && quote == '"' then do
      let (e, rest) ← readEscape? rest
      let (text, rest) ← readLine? quote fuel rest
      return (e :: text, rest)
    else if isPlain c then
      (readLine? quote fuel rest).map fun (text, rest) => (c :: text, rest)
    else none

/-- What follows a line break at the front with all blanks and line breaks after it. -/
def skipLines? (s : List Char) : Option (List Char) :=
  (newline? (skipSpace s)).map skipAll
where
  /-- What follows blanks and line breaks. -/
  skipAll (s : List Char) : List Char :=
    match s with
    | '\r' :: '\n' :: rest => skipAll rest
    | '\n' :: rest => skipAll rest
    | ' ' :: rest => skipAll rest
    | '\t' :: rest => skipAll rest
    | rest => rest

/-- Reads a string between three quotes past the opening ones.  One or two quotes stand for
themselves, right before the closing ones too; a line break stands for a line feed; a backslash at
the end of a line joins it with the next text. -/
def readLines? (quote : Char) (fuel : Nat) (s : List Char) : Option (List Char × List Char) :=
  match fuel with
  | 0 => none
  | fuel + 1 =>
    match newline? s with
    | some rest => (readLines? quote fuel rest).map fun (text, rest) => ('\n' :: text, rest)
    | none =>
      match s with
      | [] => none
      | c :: rest =>
        if c == quote then
          let count := (s.takeWhile (· == quote)).length
          let rest := s.drop count
          if count < 3 then
            (readLines? quote fuel rest).map fun (text, rest) =>
              (List.replicate count quote ++ text, rest)
          else if count < 6 then some (List.replicate (count - 3) quote, rest)
          else none
        else if c == '\\' && quote == '"' then
          match skipLines? rest with
          | some rest => readLines? quote fuel rest
          | none => do
            let (e, rest) ← readEscape? rest
            let (text, rest) ← readLines? quote fuel rest
            return (e :: text, rest)
        else if isPlain c then
          (readLines? quote fuel rest).map fun (text, rest) => (c :: text, rest)
        else none

/-- Reads a string between three quotes past the opening ones; a line break right after them is no
part of it. -/
def readBlock? (quote : Char) (s : List Char) : Option (String × List Char) :=
  let body := (newline? s).getD s
  (readLines? quote (body.length + 1) body).map fun (text, rest) => (String.ofList text, rest)

/-- Reads a string on one line past its opening quote. -/
def readQuoted? (quote : Char) (s : List Char) : Option (String × List Char) :=
  (readLine? quote (s.length + 1) s).map fun (text, rest) => (String.ofList text, rest)

/-- Reads a string that starts with a quote. -/
def readString? : List Char → Option (String × List Char)
  | '"' :: '"' :: '"' :: rest => readBlock? '"' rest
  | '\'' :: '\'' :: '\'' :: rest => readBlock? '\'' rest
  | '"' :: rest => readQuoted? '"' rest
  | '\'' :: rest => readQuoted? '\'' rest
  | _ => none

end SlashCommands.Toml
