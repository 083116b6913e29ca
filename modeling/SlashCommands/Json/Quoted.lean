/-!
# JSON strings

A string is split off at its closing quote, its escapes are resolved to characters and UTF-16
units, and pairs of surrogate units are joined.  Half a pair denotes no character.
-/

namespace SlashCommands.Json

/-- A character of a string, or a UTF-16 unit given by its number. -/
inductive Piece
  | char (c : Char)
  | unit (code : Nat)

/-- The body of a string, with its escapes, and what follows the closing quote.  Control characters
do not stand in a string. -/
def splitBody : List Char → Option (List Char × List Char)
  | [] => none
  | '"' :: rest => some ([], rest)
  | '\\' :: c :: rest => (splitBody rest).map fun parts => ('\\' :: c :: parts.1, parts.2)
  | c :: rest =>
    if c.toNat < 0x20 then none
    else (splitBody rest).map fun parts => (c :: parts.1, parts.2)

/-- The value of a hexadecimal digit in either case. -/
def hexDigit? (c : Char) : Option Nat :=
  if c.isDigit then some (c.toNat - '0'.toNat)
  else if 'a' ≤ c && c ≤ 'f' then some (c.toNat - 'a'.toNat + 10)
  else if 'A' ≤ c && c ≤ 'F' then some (c.toNat - 'A'.toNat + 10)
  else none

/-- The value of hexadecimal digits. -/
def hexValue? (digits : List Char) : Option Nat :=
  digits.foldlM (fun value c => (hexDigit? c).map (16 * value + ·)) 0

/-- The character that an escape of one letter stands for. -/
def escape? : Char → Option Char
  | '"' => some '"'
  | '\\' => some '\\'
  | '/' => some '/'
  | 'b' => some '\x08'
  | 'f' => some '\x0c'
  | 'n' => some '\n'
  | 'r' => some '\r'
  | 't' => some '\t'
  | _ => none

/-- Resolves the escapes of a body. -/
def pieces? : List Char → Option (List Piece)
  | [] => some []
  | '\\' :: 'u' :: a :: b :: c :: d :: rest => do
    let code ← hexValue? [a, b, c, d]
    return .unit code :: (← pieces? rest)
  | '\\' :: e :: rest => do
    let c ← escape? e
    return .char c :: (← pieces? rest)
  | c :: rest => return .char c :: (← pieces? rest)

/-- Holds of the first units of pairs. -/
def isHighSurrogate (code : Nat) : Bool :=
  0xD800 ≤ code && code < 0xDC00

/-- Holds of the second units of pairs. -/
def isLowSurrogate (code : Nat) : Bool :=
  0xDC00 ≤ code && code < 0xE000

/-- Joins pairs of units.  There is no result if a unit lacks its partner. -/
def join? : List Piece → Option (List Char)
  | [] => some []
  | .char c :: rest => (join? rest).map (c :: ·)
  | .unit high :: .unit low :: rest =>
    if isHighSurrogate high && isLowSurrogate low then
      (join? rest).map (Char.ofNat (0x10000 + (high - 0xD800) * 0x400 + (low - 0xDC00)) :: ·)
    else if isHighSurrogate high || isLowSurrogate high then none
    else (join? (.unit low :: rest)).map (Char.ofNat high :: ·)
  | .unit code :: rest =>
    if isHighSurrogate code || isLowSurrogate code then none
    else (join? rest).map (Char.ofNat code :: ·)

/-- Reads a string past its opening quote.  The text is missing if it has half a pair. -/
def readString? (s : List Char) : Option (Option String × List Char) := do
  let (body, rest) ← splitBody s
  let pieces ← pieces? body
  return ((join? pieces).map String.ofList, rest)

end SlashCommands.Json
