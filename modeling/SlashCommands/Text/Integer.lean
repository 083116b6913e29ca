/-!
# Integers in text

A decimal integer is an optional sign and ASCII digits.  Reading goes digit by digit and stops at
the first fault, so of two faults the one further left is reported.
-/

namespace SlashCommands.Text

/-- Why a text is not an integer of the wanted width. -/
inductive IntegerFault
  | empty
  | invalidDigit
  | tooLarge
  | tooSmall
  deriving DecidableEq, Repr

/-- The wording of a fault. -/
def IntegerFault.message : IntegerFault → String
  | .empty => "cannot parse integer from empty string"
  | .invalidDigit => "invalid digit found in string"
  | .tooLarge => "number too large to fit in target type"
  | .tooSmall => "number too small to fit in target type"

/-- The value of an ASCII digit. -/
def digit? (c : Char) : Option Nat :=
  if c.isDigit then some (c.toNat - '0'.toNat) else none

/-- Appends digits to a value that must stay at most `limit`. -/
def readDigits (limit : Nat) (beyond : IntegerFault) : Nat → List Char → Except IntegerFault Nat
  | value, [] => .ok value
  | value, c :: rest =>
    match digit? c with
    | none => .error .invalidDigit
    | some d =>
      if 10 * value + d ≤ limit then readDigits limit beyond (10 * value + d) rest
      else .error beyond

/-- Reads the digits of a number, of which there must be one. -/
def readMagnitude (limit : Nat) (beyond : IntegerFault) (digits : List Char) :
    Except IntegerFault Nat :=
  if digits.isEmpty then .error .invalidDigit else readDigits limit beyond 0 digits

/-- The greatest signed 64-bit integer. -/
def greatestSigned : Nat := 9223372036854775807

/-- Reads an unsigned 64-bit integer; a plus sign may lead. -/
def readUnsigned (s : String) : Except IntegerFault UInt64 :=
  match s.toList with
  | [] => .error .empty
  | '+' :: digits => (readMagnitude (UInt64.size - 1) .tooLarge digits).map Nat.toUInt64
  | digits => (readMagnitude (UInt64.size - 1) .tooLarge digits).map Nat.toUInt64

/-- Reads a signed 64-bit integer; either sign may lead. -/
def readSigned (s : String) : Except IntegerFault Int64 :=
  match s.toList with
  | [] => .error .empty
  | '+' :: digits => (readMagnitude greatestSigned .tooLarge digits).map (Int64.ofNat ·)
  | '-' :: digits =>
    (readMagnitude (greatestSigned + 1) .tooSmall digits).map fun n => Int64.ofInt (-n)
  | digits => (readMagnitude greatestSigned .tooLarge digits).map (Int64.ofNat ·)

/-! ### What is read -/

/-- Holds if a list of characters is the decimal digits of a number; zeros may lead. -/
structure Spells (digits : List Char) (n : Nat) : Prop where
  nonempty : digits ≠ []
  digit : ∀ c ∈ digits, c.isDigit
  value : Nat.ofDigitChars 10 digits 0 = n

/-- Holds if a text is the decimal digits of a number, after a plus sign or without one. -/
def SpellsUnsigned (s : String) (n : Nat) : Prop :=
  Spells s.toList n ∨ ∃ digits, s.toList = '+' :: digits ∧ Spells digits n

/-- A number is spelled by its own decimal digits. -/
theorem spells_toDigits (n : Nat) : Spells (Nat.toDigits 10 n) n where
  nonempty := Nat.toDigits_ne_nil
  digit _ hc := Nat.isDigit_of_mem_toDigits (by decide) (by decide) hc
  value := Nat.ofDigitChars_toDigits (by decide) (by decide)

/-- More digits never make a value smaller. -/
theorem le_ofDigitChars (digits : List Char) (value : Nat) :
    value ≤ Nat.ofDigitChars 10 digits value := by
  have hpow := Nat.le_mul_of_pos_left value (Nat.pow_pos (n := digits.length) (by decide : 0 < 10))
  rw [Nat.ofDigitChars_eq_ofDigitChars_zero]
  omega

/-- Characters are read after a value if they are digits and what they amount to is not too
great. -/
theorem readDigits_eq_ok_iff {limit : Nat} {beyond : IntegerFault} {digits : List Char}
    {value n : Nat} (hvalue : value ≤ limit) :
    readDigits limit beyond value digits = .ok n ↔
      (∀ c ∈ digits, c.isDigit) ∧ Nat.ofDigitChars 10 digits value = n ∧ n ≤ limit := by
  induction digits generalizing value with
  | nil =>
    rw [readDigits, Nat.ofDigitChars_nil, Except.ok.injEq]
    constructor
    · rintro rfl
      exact ⟨by simp, rfl, hvalue⟩
    · exact fun h => h.2.1
  | cons c rest ih =>
    rw [readDigits, digit?, Nat.ofDigitChars_cons]
    by_cases hdigit : c.isDigit
    · have hrest : (∀ x ∈ c :: rest, x.isDigit) ↔ ∀ x ∈ rest, x.isDigit := by simp [hdigit]
      rw [if_pos hdigit, hrest]
      dsimp only
      split
      · next hle => exact ih hle
      · next hgt =>
        -- what is too great already only grows with the digits to come
        have hgrows := le_ofDigitChars rest (10 * value + (c.toNat - '0'.toNat))
        constructor
        · intro h
          cases h
        · rintro ⟨-, rfl, hle⟩
          exact absurd (Nat.le_trans hgrows hle) hgt
    · rw [if_neg hdigit]
      constructor
      · intro h
        cases h
      · rintro ⟨hdigits, -⟩
        exact absurd (hdigits c List.mem_cons_self) hdigit

/-- The digits of a number are read if it is within the limit. -/
theorem readMagnitude_eq_ok_iff {limit : Nat} {beyond : IntegerFault} {digits : List Char}
    {n : Nat} : readMagnitude limit beyond digits = .ok n ↔ Spells digits n ∧ n ≤ limit := by
  rw [readMagnitude]
  split
  · next hempty =>
    constructor
    · intro h
      cases h
    · rintro ⟨hspells, -⟩
      exact absurd (List.isEmpty_iff.mp hempty) hspells.nonempty
  · next hempty =>
    rw [readDigits_eq_ok_iff (Nat.zero_le limit)]
    constructor
    · rintro ⟨hdigits, hn, hle⟩
      exact ⟨⟨fun h => hempty (List.isEmpty_iff.mpr h), hdigits, hn⟩, hle⟩
    · rintro ⟨hspells, hle⟩
      exact ⟨hspells.digit, hspells.value, hle⟩

theorem map_readMagnitude_eq_ok_iff {digits : List Char} {n : UInt64} :
    (readMagnitude (UInt64.size - 1) .tooLarge digits).map Nat.toUInt64 = .ok n ↔
      Spells digits n.toNat := by
  have hn : n.toNat ≤ UInt64.size - 1 := Nat.le_sub_one_of_lt n.toNat_lt_size
  -- within the limit nothing is lost by going through 64 bits
  have hiff : Spells digits n.toNat ↔
      readMagnitude (UInt64.size - 1) .tooLarge digits = .ok n.toNat := by
    rw [readMagnitude_eq_ok_iff, and_iff_left hn]
  rw [hiff]
  cases hread : readMagnitude (UInt64.size - 1) .tooLarge digits with
  | error fault =>
    constructor
    · intro h
      cases h
    · intro h
      cases h
  | ok m =>
    have hm : m < UInt64.size :=
      Nat.lt_of_le_sub_one (by decide) (readMagnitude_eq_ok_iff.mp hread).2
    constructor
    · intro h
      rw [← Except.ok.inj h]
      exact congrArg Except.ok (UInt64.toNat_ofNat_of_lt' hm).symm
    · intro h
      rw [Except.ok.inj h]
      exact congrArg Except.ok UInt64.ofNat_toNat

/-- An unsigned integer is read from the texts that spell it, and from no others. -/
theorem readUnsigned_eq_ok_iff {s : String} {n : UInt64} :
    readUnsigned s = .ok n ↔ SpellsUnsigned s n.toNat := by
  rw [readUnsigned, SpellsUnsigned]
  split
  · next hnil =>
    rw [hnil]
    constructor
    · intro h
      cases h
    · rintro (h | ⟨digits, h, -⟩)
      · exact absurd rfl h.nonempty
      · cases h
  · next digits hplus =>
    rw [map_readMagnitude_eq_ok_iff, hplus]
    constructor
    · exact fun h => .inr ⟨digits, rfl, h⟩
    · rintro (h | ⟨digits', h, hspells⟩)
      · -- a plus sign is no digit
        have hdigit := h.digit '+' List.mem_cons_self
        cases hdigit
      · cases h
        exact hspells
  · next digits hnil hplus =>
    rw [map_readMagnitude_eq_ok_iff]
    constructor
    · exact .inl
    · rintro (h | ⟨digits', h, -⟩)
      · exact h
      · exact absurd h (hplus digits')

/-- A text is refused just in case it spells no number of 64 bits. -/
theorem exists_readUnsigned_eq_error_iff {s : String} :
    (∃ fault, readUnsigned s = .error fault) ↔ ∀ n < UInt64.size, ¬ SpellsUnsigned s n := by
  cases hread : readUnsigned s with
  | ok n =>
    have hspells := readUnsigned_eq_ok_iff.mp hread
    refine iff_of_false ?_ fun h => h n.toNat n.toNat_lt_size hspells
    rintro ⟨fault, h⟩
    cases h
  | error fault =>
    refine iff_of_true ⟨fault, rfl⟩ fun n hn hspells => ?_
    have hok : readUnsigned s = .ok n.toUInt64 := by
      rw [readUnsigned_eq_ok_iff, Nat.toUInt64, UInt64.toNat_ofNat_of_lt' hn]
      exact hspells
    rw [hread] at hok
    cases hok

/-- An unsigned integer is read back from its decimal digits. -/
theorem readUnsigned_toString (n : UInt64) : readUnsigned (toString n.toNat) = .ok n := by
  rw [readUnsigned_eq_ok_iff, SpellsUnsigned, Nat.toString_eq_repr, Nat.toList_repr]
  exact .inl (spells_toDigits n.toNat)

/-- Different integers have different decimal digits. -/
theorem toString_toNat_inj {m n : UInt64} (h : toString m.toNat = toString n.toNat) : m = n := by
  have hread := readUnsigned_toString m
  rw [h, readUnsigned_toString] at hread
  exact (Except.ok.inj hread).symm

end SlashCommands.Text
