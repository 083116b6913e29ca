import SlashCommands.Datum
import SlashCommands.Decimal.Reading

/-!
# JSON numbers

A number without a point and an exponent is whole if it fits 64 bits, signed or not; minus zero is
not.  Every other number is a double, found by double arithmetic: as many leading digits as fit 64
bits make a significand, and the significand is scaled by a power of ten.
-/

namespace SlashCommands.Json

open Decimal (spanDigits digitsValue)

/-- A significand and the power of ten to scale it by. -/
structure Parts where
  significand : Nat
  exponent : Int

/-- The significand with one more digit, if that fits 64 bits. -/
def pushDigit? (significand : Nat) (c : Char) : Option Nat :=
  let next := 10 * significand + (c.toNat - '0'.toNat)
  if next < UInt64.size then some next else none

/-- Takes in the digits before the point.  From the first one that does not fit, each digit raises
the exponent instead. -/
def takeWhole (p : Parts) : List Char → Parts
  | [] => p
  | c :: rest =>
    match pushDigit? p.significand c with
    | some next => takeWhole ⟨next, p.exponent⟩ rest
    | none => ⟨p.significand, p.exponent + (rest.length + 1)⟩

/-- Takes in the digits after the point up to the first one that does not fit. -/
def takeFraction (p : Parts) : List Char → Parts
  | [] => p
  | c :: rest =>
    match pushDigit? p.significand c with
    | some next => takeFraction ⟨next, p.exponent - 1⟩ rest
    | none => p

/-- The greatest exponent of a power of ten among the doubles. -/
def greatestPower : Int := 308

/-- The double nearest to a power of ten. -/
def powerOfTen (n : Nat) : Float :=
  Float.ofScientific 1 false n

/-- Divides by the greatest power of ten while the exponent is below all of them. -/
def shrink : Nat → Float → Int → Float × Int
  | 0, x, exponent => (x, exponent)
  | fuel + 1, x, exponent =>
    if exponent < -greatestPower && x != 0.0 then
      shrink fuel (x / powerOfTen 308) (exponent + greatestPower)
    else (x, exponent)

/-- Scales a significand, unless the result is beyond the doubles.  Three divisions by `10 ^ 308`
bring every significand to zero. -/
def Parts.toFloat? (p : Parts) : Option Float :=
  let (x, exponent) := shrink 3 p.significand.toUInt64.toFloat p.exponent
  if x == 0.0 then some x
  else if exponent < -greatestPower then some 0.0
  else if exponent < 0 then some (x / powerOfTen (-exponent).toNat)
  else if greatestPower < exponent then none
  else
    let y := x * powerOfTen exponent.toNat
    if y.isInf then none else some y

/-- The datum of a double with a sign, or of a number beyond the doubles. -/
def signedFloat (negative : Bool) : Option Float → Datum
  | some x => .float (if negative then -x else x)
  | none => .void

/-- The datum of a number without a point and an exponent. -/
def wholeDatum (negative : Bool) (digits : List Char) : Datum :=
  let n := digitsValue digits
  if negative then
    if 0 < n && Datum.fitsInt64 (-n) then .int (-n)
    else signedFloat true (takeWhole ⟨0, 0⟩ digits).toFloat?
  else if n < UInt64.size then .int n
  else signedFloat false (takeWhole ⟨0, 0⟩ digits).toFloat?

/-- The exponent of a number and what follows it; without a mark there is none. -/
def readExponent? : List Char → Option (Option Int × List Char)
  | [] => some (none, [])
  | mark :: rest =>
    if mark == 'e' || mark == 'E' then
      let (negative, rest) : Bool × List Char :=
        match rest with
        | '+' :: rest => (false, rest)
        | '-' :: rest => (true, rest)
        | rest => (false, rest)
      let (digits, rest) := spanDigits rest
      if digits.isEmpty then none
      else some (some (if negative then -(digitsValue digits : Int) else digitsValue digits), rest)
    else some (none, mark :: rest)

/-- The digits after a point and what follows them; without a point there are none. -/
def readFraction? : List Char → Option (Option (List Char) × List Char)
  | '.' :: rest =>
    let (digits, rest) := spanDigits rest
    if digits.isEmpty then none else some (some digits, rest)
  | rest => some (none, rest)

/-- Reads a number without its sign.  A zero in front stands alone. -/
def readMagnitude? (negative : Bool) (s : List Char) : Option (Datum × List Char) := do
  let (whole, rest) := spanDigits s
  if whole.isEmpty || (whole.head? == some '0' && 1 < whole.length) then none
  else
    let (fraction, rest) ← readFraction? rest
    let (exponent, rest) ← readExponent? rest
    match fraction, exponent with
    | none, none => some (wholeDatum negative whole, rest)
    | _, _ =>
      let p := takeFraction (takeWhole ⟨0, 0⟩ whole) (fraction.getD [])
      some (signedFloat negative (Parts.toFloat? ⟨p.significand, p.exponent + exponent.getD 0⟩),
        rest)

/-- Reads a number. -/
def readNumber? : List Char → Option (Datum × List Char)
  | '-' :: rest => readMagnitude? true rest
  | rest => readMagnitude? false rest

end SlashCommands.Json
