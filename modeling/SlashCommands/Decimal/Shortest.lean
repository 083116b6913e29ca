import SlashCommands.Decimal.Dyadic

/-!
# The fewest digits that read back

A double is written with the fewest decimal digits for which reading gives the same double, and of
the candidates of that length with the one nearest to its value.  The numbers that read as a given
double form an interval around it, which holds its ends if the mantissa is even; for one digit,
then two, and so on, the two neighbours of the value on the decimal grid are tried.  Where both are
equally near, a `Tie` tells which of them is taken.
-/

namespace SlashCommands.Decimal

/-- The decimal number `digits · 10 ^ exponent`. -/
structure Digits where
  digits : Nat
  exponent : Int
  deriving DecidableEq, Repr

/-- Which of two equally near candidates is taken: the greater one, or the one with an even last
digit. -/
inductive Tie
  | up
  | even
  deriving DecidableEq, Repr

/-- The numbers that read as one positive double, as quotients by one denominator. -/
structure Basin where
  low : Nat
  value : Nat
  high : Nat
  denominator : Nat
  closed : Bool

/-- The interval of a double with a positive mantissa.  Below a power of two the neighbour is half
as far away as above it. -/
def Dyadic.basin (d : Dyadic) : Basin :=
  let m := d.mantissa
  let below := if m = leadingBit ∧ d.exponent ≠ leastExponent then 1 else 2
  let scale := (d.exponent - 2).toNat
  ⟨(4 * m - below) <<< scale, (4 * m) <<< scale, (4 * m + 2) <<< scale,
    1 <<< (2 - d.exponent).toNat, m % 2 == 0⟩

/-- A power of ten. -/
def tenTo (n : Nat) : Nat := Nat.pow 10 n

/-- Holds if `digits · 10 ^ exponent` reads as the double of the interval. -/
def Basin.holds (b : Basin) (c : Digits) : Bool :=
  let num := c.digits * tenTo c.exponent.toNat * b.denominator
  let den := tenTo (-c.exponent).toNat
  if b.closed then b.low * den ≤ num && num ≤ b.high * den
  else b.low * den < num && num < b.high * den

/-- The distance of a decimal number from the double's value, times the two denominators. -/
def Basin.distance (b : Basin) (c : Digits) : Nat :=
  let num := c.digits * tenTo c.exponent.toNat * b.denominator
  let own := b.value * tenTo (-c.exponent).toNat
  if num ≤ own then own - num else num - own

/-- The number of decimal digits of a whole number. -/
def digitCount (n : Nat) : Nat :=
  if n = 0 then 0 else (Nat.toDigits 10 n).length

/-- The least `k` with the value below `10 ^ k`. -/
def Basin.magnitude (b : Basin) : Int :=
  (digitCount (b.value * tenTo 400 / b.denominator) : Int) - 400

/-- The candidates with `count` digits: the value rounded down and up on that grid. -/
def Basin.neighbours (b : Basin) (count : Nat) : Digits × Digits :=
  let exponent := b.magnitude - count
  let down := b.value * tenTo (-exponent).toNat / (b.denominator * tenTo exponent.toNat)
  (⟨down, exponent⟩, ⟨down + 1, exponent⟩)

/-- The nearer of the two neighbours on a grid. -/
def Basin.nearer (b : Basin) (tie : Tie) (down up : Digits) : Digits :=
  match compare (b.distance down) (b.distance up), tie with
  | .lt, _ => down
  | .gt, _ => up
  | .eq, .up => up
  | .eq, .even => if down.digits % 2 = 0 then down else up

/-- The better of the two candidates with `count` digits, if one of them reads back. -/
def Basin.candidate? (b : Basin) (tie : Tie) (count : Nat) : Option Digits :=
  let (down, up) := b.neighbours count
  match b.holds down, b.holds up with
  | true, true => some (b.nearer tie down up)
  | true, false => some down
  | false, true => some up
  | false, false => none

/-- Moves zeros at the end of the digits into the exponent. -/
def Digits.trimZeros (fuel : Nat) (c : Digits) : Digits :=
  match fuel with
  | 0 => c
  | fuel + 1 =>
    if c.digits ≠ 0 ∧ c.digits % 10 = 0 then
      Digits.trimZeros fuel ⟨c.digits / 10, c.exponent + 1⟩
    else c

/-- The shortest digits of a magnitude; zero has the digit zero.  Seventeen digits always read
back, so the search ends. -/
def Dyadic.shortest (tie : Tie) (d : Dyadic) : Digits :=
  if d.mantissa = 0 then ⟨0, 0⟩
  else
    match (List.range 18).findSome? fun n => d.basin.candidate? tie (n + 1) with
    | some c => c.trimZeros 20
    | none => ⟨d.mantissa, d.exponent⟩

example : Dyadic.shortest .up ⟨false, 1, -1074⟩ = ⟨5, -324⟩ := by decide +kernel
example : Dyadic.shortest .up ⟨false, 2 ^ 53 - 1, 971⟩ = ⟨17976931348623157, 292⟩ := by
  decide +kernel
example : Dyadic.shortest .up ⟨false, 2 ^ 52, 11⟩ = ⟨9223372036854776, 3⟩ := by decide +kernel
example : Dyadic.shortest .up ⟨false, 2 ^ 52 + 1, -2⟩ = ⟨11258999068426243, -1⟩ := by decide +kernel
example : Dyadic.shortest .even ⟨false, 2 ^ 52 + 1, -2⟩ = ⟨11258999068426242, -1⟩ := by
  decide +kernel
example : Dyadic.shortest .even ⟨false, 2 ^ 52 + 3, -2⟩ = ⟨11258999068426248, -1⟩ := by
  decide +kernel

end SlashCommands.Decimal
