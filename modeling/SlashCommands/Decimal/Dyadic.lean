/-!
# Doubles as dyadic numbers

A finite double is a sign, a whole number and a power of two.  `Double.view` decodes the bits, so
that what is said about a double afterwards is said about whole numbers.
-/

namespace SlashCommands.Decimal

/-- The number `± mantissa · 2 ^ exponent`. -/
structure Dyadic where
  negative : Bool
  mantissa : Nat
  exponent : Int
  deriving DecidableEq, Repr

/-- What a double stands for. -/
inductive Double
  | finite (value : Dyadic)
  | infinite (negative : Bool)
  | nan
  deriving DecidableEq, Repr

/-- The number of stored bits of a mantissa. -/
def mantissaBits : Nat := 52

/-- The bit of a mantissa in front of the stored ones. -/
def leadingBit : Nat := 1 <<< mantissaBits

/-- The exponent of the last bit of the smallest doubles. -/
def leastExponent : Int := -1074

/-- Decodes the sign, the exponent field and the mantissa field of a double. -/
def Double.ofBits (bits : Nat) : Double :=
  let negative := bits.testBit 63
  let field : Nat := (bits >>> mantissaBits) % 2048
  let fraction : Nat := bits % leadingBit
  if field = 2047 then
    if fraction = 0 then .infinite negative else .nan
  else if field = 0 then .finite ⟨negative, fraction, leastExponent⟩
  else .finite ⟨negative, leadingBit + fraction, leastExponent + ((field : Int) - 1)⟩

/-- What a double stands for. -/
def Double.view (x : Float) : Double :=
  Double.ofBits x.toBits.toNat

/-- The magnitude as a quotient: numerator and denominator, one of them a whole number's and the
other a power of two. -/
def Dyadic.quotient (d : Dyadic) : Nat × Nat :=
  if d.exponent < 0 then (d.mantissa, 1 <<< (-d.exponent).toNat)
  else (d.mantissa <<< d.exponent.toNat, 1)

/-- The value if it is whole. -/
def Dyadic.toInt? (d : Dyadic) : Option Int :=
  let (num, den) := d.quotient
  if num % den = 0 then some (if d.negative then -(num / den : Nat) else (num / den : Nat))
  else none

/-- The value of a double if it is finite and whole. -/
def Double.toInt? : Double → Option Int
  | .finite d => d.toInt?
  | _ => none

/-- Holds of the doubles that stand for a number. -/
def Double.isFinite : Double → Bool
  | .finite _ => true
  | _ => false

end SlashCommands.Decimal
