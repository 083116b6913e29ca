import SlashCommands.Datum
import SlashCommands.Decimal.Reading
import SlashCommands.Json.Quoted

/-!
# TOML numbers and times

A number may have underscores between digits.  Integers fit 64 bits with a sign and can be written
to the bases 16, 8 and 2; anything with a point or an exponent is a double.  Dates and times are
checked and otherwise opaque.
-/

namespace SlashCommands.Toml

open Json (hexDigit?)

/-- Reads digits with single underscores between them: the digits and what follows. -/
def readDigits? (isDigit : Char → Bool) : List Char → Option (List Char × List Char)
  | [] => none
  | c :: rest =>
    if isDigit c then
      match rest with
      | '_' :: rest => (readDigits? isDigit rest).map fun (digits, rest) => (c :: digits, rest)
      | d :: rest' =>
        if isDigit d then
          (readDigits? isDigit (d :: rest')).map fun (digits, rest) => (c :: digits, rest)
        else some ([c], d :: rest')
      | [] => some ([c], [])
    else none

/-- Reads the digits of a decimal integer; a zero in front stands alone. -/
def readWhole? : List Char → Option (List Char × List Char)
  | '0' :: rest => some (['0'], rest)
  | s => readDigits? Char.isDigit s

/-- Takes the sign off a number. -/
def takeSign : List Char → Bool × List Char
  | '+' :: rest => (false, rest)
  | '-' :: rest => (true, rest)
  | rest => (false, rest)

/-- The value of digits to a base, from the left. -/
def baseValue (base : Nat) (digits : List Char) : Nat :=
  digits.foldl (fun value c => base * value + (hexDigit? c).getD 0) 0

/-- The datum of an integer if it fits. -/
def integer? (n : Int) : Option Datum :=
  if Datum.fitsInt64 n then some (.int n) else none

/-- Holds of octal digits. -/
def isOctal (c : Char) : Bool :=
  '0' ≤ c && c ≤ '7'

/-- Holds of binary digits. -/
def isBinary (c : Char) : Bool :=
  c == '0' || c == '1'

/-- Reads the digits of an integer to a base. -/
def readBase? (base : Nat) (isDigit : Char → Bool) (s : List Char) :
    Option (Datum × List Char) := do
  let (digits, rest) ← readDigits? isDigit s
  return (← integer? (baseValue base digits), rest)

/-- Reads an integer. -/
def readInteger? : List Char → Option (Datum × List Char)
  | '0' :: 'x' :: rest => readBase? 16 (fun c => (hexDigit? c).isSome) rest
  | '0' :: 'o' :: rest => readBase? 8 isOctal rest
  | '0' :: 'b' :: rest => readBase? 2 isBinary rest
  | s => do
    let (negative, rest) := takeSign s
    let (digits, rest) ← readWhole? rest
    let n : Int := baseValue 10 digits
    return (← integer? (if negative then -n else n), rest)

/-- Reads an exponent past its mark: its digits with their sign. -/
def readExponent? (s : List Char) : Option (List Char × List Char) := do
  let (negative, rest) := takeSign s
  let (digits, rest) ← readDigits? Char.isDigit rest
  return (if negative then '-' :: digits else digits, rest)

/-- Reads what makes a number a double, a point or an exponent or both, as plain text. -/
def readFraction? : List Char → Option (List Char × List Char)
  | '.' :: rest => do
    let (digits, rest) ← readDigits? Char.isDigit rest
    match rest with
    | mark :: after =>
      if mark == 'e' || mark == 'E' then
        let (exponent, rest) ← readExponent? after
        return ('.' :: digits ++ 'e' :: exponent, rest)
      else return ('.' :: digits, rest)
    | [] => return ('.' :: digits, [])
  | mark :: rest =>
    if mark == 'e' || mark == 'E' then
      (readExponent? rest).map fun (exponent, rest) => ('e' :: exponent, rest)
    else none
  | [] => none

/-- Reads the name of infinity or of the non-number. -/
def readNamed? (negative : Bool) : List Char → Option (Datum × List Char)
  | 'i' :: 'n' :: 'f' :: rest =>
    some (.float (if negative then -Decimal.infinity else Decimal.infinity), rest)
  | 'n' :: 'a' :: 'n' :: rest => some (.float Decimal.notANumber, rest)
  | _ => none

/-- Reads a double.  One that is too great for a double is refused. -/
def readFloat? (s : List Char) : Option (Datum × List Char) :=
  let (negative, rest) := takeSign s
  let number := do
    let (whole, rest) ← readWhole? rest
    let (fraction, rest) ← readFraction? rest
    let x ← Decimal.readMagnitude? (whole ++ fraction)
    if x == Decimal.infinity && !negative then none
    else some (Datum.float (if negative then -x else x), rest)
  number.or (readNamed? negative rest)

/-! ### Dates and times -/

/-- Reads a number with so many digits. -/
def readFixed? (count : Nat) (s : List Char) : Option (Nat × List Char) :=
  let digits := s.take count
  if digits.length = count && digits.all Char.isDigit then
    some (baseValue 10 digits, s.drop count)
  else none

/-- Reads a number with two digits from an interval. -/
def readPart? (low high : Nat) (s : List Char) : Option (Nat × List Char) :=
  match readFixed? 2 s with
  | some (n, rest) => if low ≤ n && n ≤ high then some (n, rest) else none
  | none => none

/-- What follows a character at the front. -/
def readMark? (c : Char) : List Char → Option (List Char)
  | d :: rest => if d == c then some rest else none
  | [] => none

/-- The number of days of a month. -/
def daysIn (year month : Nat) : Nat :=
  let leap := year % 4 == 0 && (year % 100 != 0 || year % 400 == 0)
  if month == 2 then (if leap then 29 else 28)
  else if month == 4 || month == 6 || month == 9 || month == 11 then 30
  else 31

/-- What follows a date. -/
def skipDate? (s : List Char) : Option (List Char) := do
  let (year, rest) ← readFixed? 4 s
  let rest ← readMark? '-' rest
  let (month, rest) ← readPart? 1 12 rest
  let rest ← readMark? '-' rest
  let (_, rest) ← readPart? 1 (daysIn year month) rest
  return rest

/-- What follows a time of day; a leap second is allowed. -/
def skipTime? (s : List Char) : Option (List Char) := do
  let (_, rest) ← readPart? 0 23 s
  let rest ← readMark? ':' rest
  let (_, rest) ← readPart? 0 59 rest
  let rest ← readMark? ':' rest
  let (_, rest) ← readPart? 0 60 rest
  match rest with
  | '.' :: rest =>
    if (rest.takeWhile Char.isDigit).isEmpty then none else return rest.dropWhile Char.isDigit
  | rest => return rest

/-- What follows the offset of a time, which may be missing. -/
def skipOffset? : List Char → Option (List Char)
  | 'Z' :: rest | 'z' :: rest => some rest
  | '+' :: rest | '-' :: rest => do
    let (_, rest) ← readPart? 0 23 rest
    let rest ← readMark? ':' rest
    let (_, rest) ← readPart? 0 59 rest
    return rest
  | rest => some rest

/-- What follows a date, a time, or both with an offset. -/
def skipDateTime? (s : List Char) : Option (List Char) :=
  match skipDate? s with
  | none => skipTime? s
  | some rest =>
    match rest with
    | 'T' :: after | 't' :: after | ' ' :: after =>
      match skipTime? after with
      | some rest => skipOffset? rest
      | none => some rest
    | rest => some rest

/-- The datum of a date or time: a table, with a key that no record has. -/
def dateTime : Datum := .table [("datetime", .null)]

/-- Reads a number, a date or a time. -/
def readScalar? (s : List Char) : Option (Datum × List Char) :=
  match skipDateTime? s with
  | some rest => some (dateTime, rest)
  | none => (readFloat? s).or (readInteger? s)

end SlashCommands.Toml
