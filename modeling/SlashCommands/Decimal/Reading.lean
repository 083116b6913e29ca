import SlashCommands.Text.Integer

/-!
# Reading doubles

`ofDecimal` rounds a decimal number to the nearest double.  `readFloat?` reads a text: an optional
sign, then digits with an optional point and an optional exponent, or one of the names of infinity
and of the non-number in any case.
-/

namespace SlashCommands.Decimal

/-- Infinity. -/
def infinity : Float := Float.ofBits 0x7FF0000000000000

/-- The double that stands for no number. -/
def notANumber : Float := Float.ofBits 0x7FF8000000000000

/-- The double nearest to `digits · 10 ^ exponent`.  Where the exponent alone decides, the power of
ten is not worked out: a number with `n` digits lies below `10 ^ (n + exponent)`. -/
def ofDecimal (digits : Nat) (exponent : Int) : Float :=
  let magnitude : Int := (Nat.toDigits 10 digits).length + exponent
  if digits = 0 then 0.0
  else if magnitude < -400 then 0.0
  else if 400 < magnitude then infinity
  else if exponent < 0 then Float.ofScientific digits true (-exponent).toNat
  else Float.ofScientific digits false exponent.toNat

/-- The digits at the front and what follows them. -/
def spanDigits (s : List Char) : List Char × List Char :=
  (s.takeWhile Char.isDigit, s.dropWhile Char.isDigit)

/-- The value of a list of digits. -/
def digitsValue (digits : List Char) : Nat :=
  digits.foldl (fun value c => 10 * value + (c.toNat - '0'.toNat)) 0

/-- The exponent after a mark `e` or `E`: an optional sign and at least one digit. -/
def readExponent? : List Char → Option Int
  | [] => some 0
  | mark :: rest =>
    if mark == 'e' || mark == 'E' then
      let (negative, digits) : Bool × List Char :=
        match rest with
        | '+' :: digits => (false, digits)
        | '-' :: digits => (true, digits)
        | digits => (false, digits)
      if digits.isEmpty || !digits.all Char.isDigit then none
      else some (if negative then -(digitsValue digits : Int) else digitsValue digits)
    else none

/-- Reads an unsigned number with a point or an exponent or neither. -/
def readNumber? (s : List Char) : Option Float :=
  let (whole, rest) := spanDigits s
  let (fraction, rest) : List Char × List Char :=
    match rest with
    | '.' :: rest => spanDigits rest
    | rest => ([], rest)
  if whole.isEmpty && fraction.isEmpty then none
  else (readExponent? rest).map fun exponent =>
    ofDecimal (digitsValue (whole ++ fraction)) (exponent - fraction.length)

/-- Reads an unsigned number or a name. -/
def readMagnitude? (s : List Char) : Option Float :=
  match String.ofList (s.map Char.toLower) with
  | "inf" | "infinity" => some infinity
  | "nan" => some notANumber
  | _ => readNumber? s

/-- Reads a text as a double. -/
def readFloat? (s : String) : Option Float :=
  match s.toList with
  | '+' :: rest => readMagnitude? rest
  | '-' :: rest => (readMagnitude? rest).map fun x => -x
  | rest => readMagnitude? rest

end SlashCommands.Decimal
