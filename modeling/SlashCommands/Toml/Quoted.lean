import SlashCommands.Json.Writer

/-!
# Writing TOML strings

Of the four ways to write a string the first that shows the text unchanged is taken: between double
quotes, between single quotes, and the same with three quotes.  If none does, the text is written
between double quotes, three of them if it has line breaks, with escapes.
-/

namespace SlashCommands.Toml

/-- The length of the longest run of a character. -/
def longestRun (c : Char) (s : List Char) : Nat :=
  go 0 s
where
  /-- The same after a run of some length. -/
  go (run : Nat) : List Char → Nat
    | [] => run
    | d :: rest => if d == c then go (run + 1) rest else max run (go 0 rest)

/-- Holds of the control characters that must be escaped, which the tab and the line feed need
not. -/
def needsCode (c : Char) : Bool :=
  c != '\t' && c != '\n' && (c.toNat < 0x20 || c.toNat == 0x7F)

/-- The four ways to write a string. -/
inductive Style
  | basic
  | literal
  | basicBlock
  | literalBlock
  deriving DecidableEq, Repr

/-- The way a text is written. -/
def Style.choose (s : List Char) : Style :=
  let code := s.any needsCode
  let escape := s.contains '\\'
  let breaks := s.contains '\n'
  let doubles := longestRun '"' s
  let singles := longestRun '\'' s
  if !code && !escape && doubles == 0 && !breaks then .basic
  else if !code && singles == 0 && !breaks then .literal
  else if !code && !escape && doubles ≤ 2 then .basicBlock
  else if !code && singles ≤ 2 then .literalBlock
  else if breaks then .basicBlock
  else .basic

/-- A character between double quotes that must be escaped. -/
def escapeChar (block : Bool) (c : Char) : String :=
  match c with
  | '\x08' => "\\b"
  | '\t' => "\\t"
  | '\n' => if block then "\n" else "\\n"
  | '\x0c' => "\\f"
  | '\r' => "\\r"
  | '\\' => "\\\\"
  | c =>
    if c.toNat < 0x20 || c.toNat == 0x7F then
      "\\u" ++ String.ofList ((Json.hexFour c.toNat).toList.map Char.toUpper)
    else c.toString

/-- A text between double quotes.  `allowed` double quotes in a row stand for themselves, and the
next one is escaped. -/
def escapeText (block : Bool) (allowed : Nat) : Nat → List Char → String
  | _, [] => ""
  | run, c :: rest =>
    if c == '"' then
      if run < allowed then "\"" ++ escapeText block allowed (run + 1) rest
      else "\\\"" ++ escapeText block allowed 0 rest
    else escapeChar block c ++ escapeText block allowed 0 rest

/-- A text as a TOML string.  In a block with line breaks the text starts on a new line. -/
def quote (text : String) : String :=
  let s := text.toList
  let first := if s.contains '\n' then "\n" else ""
  match Style.choose s with
  | .basic => "\"" ++ escapeText false 0 0 s ++ "\""
  | .literal => "'" ++ text ++ "'"
  | .basicBlock => "\"\"\"" ++ first ++ escapeText true 2 0 s ++ "\"\"\""
  | .literalBlock => "'''" ++ first ++ text ++ "'''"

end SlashCommands.Toml
