/-!
# Punycode

The ASCII form of a label with other characters: its ASCII characters, then the code points of the
others in ascending order, each as a distance.  A distance counts the places between two insertions
and is written with digits whose weights adapt to the distances before it.  `length_of_addDistance?`
says that reading a distance leaves less to read.
-/

namespace SlashCommands.Url.Punycode

/-- The digit for a value below 36. -/
def digit (d : Nat) : Char :=
  if d < 26 then Char.ofNat ('a'.toNat + d) else Char.ofNat ('0'.toNat + (d - 26))

/-- The least value that a digit at a place needs to be followed by another one. -/
def threshold (bias place : Nat) : Nat :=
  max 1 (min 26 (place - bias))

theorem threshold_pos (bias place : Nat) : 0 < threshold bias place := by
  unfold threshold
  omega

/-- The digits of a distance from a place on. -/
def distance (bias place n : Nat) : List Char :=
  let t := threshold bias place
  if n < t then [digit n]
  else digit (t + (n - t) % (36 - t)) :: distance bias (place + 36) ((n - t) / (36 - t))
termination_by n
decreasing_by
  have := threshold_pos bias place
  calc (n - threshold bias place) / (36 - threshold bias place)
      ≤ n - threshold bias place := Nat.div_le_self _ _
    _ < n := by omega

/-- The bias that a scaled distance asks for, `steps` divisions later. -/
def biasFrom (steps n : Nat) : Nat :=
  if 455 < n then biasFrom (steps + 1) (n / 35) else 36 * steps + 36 * n / (n + 38)
termination_by n

/-- The bias after a distance, when there are `count` characters. -/
def nextBias (first : Bool) (n count : Nat) : Nat :=
  let scaled := if first then n / 700 else n / 2
  biasFrom 0 (scaled + scaled / count)

/-- What has been written, and what the next distance depends on. -/
structure State where
  written : List Char
  gap : Nat
  bias : Nat
  count : Nat

/-- Passes a character of the label while the characters with some code point are inserted. -/
def State.pass (basic code : Nat) (s : State) (c : Char) : State :=
  if c.toNat < code then { s with gap := s.gap + 1 }
  else if c.toNat = code then
    ⟨s.written ++ distance s.bias 36 s.gap, 0, nextBias (s.count = basic) s.gap (s.count + 1),
      s.count + 1⟩
  else s

/-- Inserts the characters with each of some code points, given in ascending order and not below
`start`. -/
def insertAll (label : List Char) (basic : Nat) (s : State) (start : Nat) : List Nat → State
  | [] => s
  | code :: rest =>
    let s := { s with gap := s.gap + (code - start) * (s.count + 1) }
    let s := label.foldl (State.pass basic code) s
    insertAll label basic { s with gap := s.gap + 1 } (code + 1) rest

/-- The ASCII form of a label, without the mark that tells it from other labels. -/
def encode (label : List Char) : List Char :=
  let basic := label.filter (·.toNat < 0x80)
  let others := ((label.filter (0x80 ≤ ·.toNat)).map Char.toNat).mergeSort.eraseDups
  let front := if basic.isEmpty then [] else basic ++ ['-']
  front ++ (insertAll label basic.length ⟨[], 0, 72, basic.length⟩ 0x80 others).written

/-! ### Reading -/

/-- The value of a digit. -/
def digitValue? (c : Char) : Option Nat :=
  if c.isLower then some (c.toNat - 'a'.toNat)
  else if c.isDigit then some (c.toNat - '0'.toNat + 26)
  else none

/-- The greatest sum of distances, and the greatest weight of a digit. -/
def greatest : Nat := 0xFFFFFFFF

/-- Reads the digits of a distance from a place on, the first of them with a weight.  Returns the
sum of the distance and an earlier one, and what follows. -/
def addDistance? (bias place weight sum : Nat) : List Char → Option (Nat × List Char)
  | [] => none
  | c :: rest => do
    let d ← digitValue? c
    let sum := sum + d * weight
    let t := threshold bias place
    if greatest < sum then none
    else if d < t then some (sum, rest)
    else if greatest < weight * (36 - t) then none
    else addDistance? bias (place + 36) (weight * (36 - t)) sum rest

theorem length_of_addDistance? {bias place weight sum : Nat} {s : List Char}
    {r : Nat × List Char} (h : addDistance? bias place weight sum s = some r) :
    r.2.length < s.length := by
  induction s generalizing place weight sum with
  | nil => simp [addDistance?] at h
  | cons c rest ih =>
    cases hd : digitValue? c with
    | none => simp [addDistance?, hd] at h
    | some d =>
      simp only [addDistance?, hd, Option.bind_eq_bind, Option.bind_some] at h
      split at h
      · simp at h
      · split at h
        · simp only [Option.some.injEq] at h
          simp [← h]
        · split at h
          · simp at h
          · exact Nat.lt_succ_of_lt (ih h)

/-- Inserts the characters that distances stand for into a label, from the place after `gap`
characters on, with code points not below `code`. -/
def insertFrom? (bias code gap : Nat) (label s : List Char) : Option (List Char) :=
  match s with
  | [] => some label
  | c :: rest =>
    match _h : addDistance? bias 36 1 gap (c :: rest) with
    | none => none
    | some (sum, after) =>
      let count := label.length + 1
      let next := code + sum / count
      if (Char.ofNat next).toNat = next then
        insertFrom? (nextBias (gap = 0) (sum - gap) count) next (sum % count + 1)
          (label.insertIdx (sum % count) (Char.ofNat next)) after
      else none
termination_by s.length
decreasing_by exact length_of_addDistance? ‹_›

/-- The label that an ASCII form in lower case stands for. -/
def decode? (s : List Char) : Option (List Char) :=
  match s.reverse.span (· != '-') with
  | (digits, []) => insertFrom? 72 0x80 0 [] digits.reverse
  | (_, [_]) => none
  | (digits, _ :: basic) => insertFrom? 72 0x80 0 basic.reverse digits.reverse

example : encode "bücher".toList = "bcher-kva".toList := by decide +kernel
example : encode "é".toList = "9ca".toList := by decide +kernel
example : decode? "bcher-kva".toList = some "bücher".toList := by decide +kernel
example : decode? "-kva".toList = none := by decide +kernel

end SlashCommands.Url.Punycode
