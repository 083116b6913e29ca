import SlashCommands.Decimal.Shortest

/-!
# Layouts of doubles

The shortest digits of a double are laid out in two ways.  `plain` never uses an exponent, however
long the zeros get; of two equally near values it shows the greater one.  `compact` always shows a
point or an exponent, and uses an exponent from `10 ^ 16` on and below `10 ^ (-5)`; of two equally
near values it shows the one with an even last digit.
-/

namespace SlashCommands.Decimal

/-- The decimal digits of a whole number. -/
def digitText (n : Nat) : String :=
  String.ofList (Nat.toDigits 10 n)

/-- So many zeros. -/
def zeros (n : Nat) : String :=
  String.ofList (List.replicate n '0')

/-- Cuts a text after so many characters. -/
def cutAt (n : Nat) (s : String) : String × String :=
  (String.ofList (s.toList.take n), String.ofList (s.toList.drop n))

/-- The digits in positional notation; `whole` follows a number without a fraction. -/
def Digits.positional (whole : String) (c : Digits) : String :=
  let text := digitText c.digits
  let point : Int := text.length + c.exponent
  if 0 ≤ c.exponent then text ++ zeros c.exponent.toNat ++ whole
  else if 0 < point then
    let (front, back) := cutAt point.toNat text
    front ++ "." ++ back
  else "0." ++ zeros (-point).toNat ++ text

/-- An exponent with its sign. -/
def exponentText (exponent : Int) : String :=
  (if exponent < 0 then "e-" else "e+") ++ digitText exponent.natAbs

/-- The digits with one of them before the point and an exponent. -/
def Digits.scientific (c : Digits) : String :=
  let text := digitText c.digits
  let point : Int := text.length + c.exponent
  let (front, back) := cutAt 1 text
  front ++ (if back.isEmpty then "" else "." ++ back) ++ exponentText (point - 1)

/-- The compact layout of digits. -/
def Digits.compact (c : Digits) : String :=
  let point : Int := (digitText c.digits).length + c.exponent
  if -5 < point ∧ point ≤ 16 then c.positional ".0" else c.scientific

/-- A sign in front of a text. -/
def signed (negative : Bool) (text : String) : String :=
  if negative then "-" ++ text else text

/-- The layout without exponents; there are texts for the doubles that are no numbers too. -/
def plain (x : Float) : String :=
  match Double.view x with
  | .finite d => signed d.negative ((d.shortest .up).positional "")
  | .infinite negative => signed negative "inf"
  | .nan => "NaN"

/-- The layout with a point or an exponent, if the double stands for a number. -/
def compact? (x : Float) : Option String :=
  match Double.view x with
  | .finite d => some (signed d.negative (d.shortest .even).compact)
  | _ => none

example : (Digits.mk 1 (-5)).compact = "0.00001" := by decide +kernel
example : (Digits.mk 1 (-6)).compact = "1e-6" := by decide +kernel
example : (Digits.mk 1 15).compact = "1000000000000000.0" := by decide +kernel
example : (Digits.mk 125 14).compact = "1.25e+16" := by decide +kernel
example : (Digits.mk 0 0).compact = "0.0" := by decide +kernel
example : (Digits.mk 25 (-1)).positional "" = "2.5" := by decide +kernel

end SlashCommands.Decimal
