import SlashCommands.Pattern.Token

/-!
# Evaluation of patterns

`Pattern.split?` recurses on what is left after a group or a word, and does not compute by
definition.  `Pattern.splitWithin?` recurses on a bound for the length instead and is the same
function (`Pattern.splitWithin?_eq_split?`), so the tokens of a given pattern can be computed
(`Pattern.tokens_of_splitWithin?`).
-/

namespace SlashCommands.Pattern

open Text (isBlank)

/-- Cuts a pattern of at most `fuel` characters into groups and words. -/
def splitWithin? : Nat → List Char → Option (List (List Char))
  | _, [] => some []
  | 0, _ :: _ => none
  | fuel + 1, c :: rest =>
    if isBlank c then splitWithin? fuel rest
    else
      match closing? c with
      | some close =>
        match takeGroup? close rest with
        | some (group, after) => (splitWithin? fuel after).map ((c :: group) :: ·)
        | none => none
      | none =>
        (splitWithin? fuel (rest.dropWhile isWordChar)).map ((c :: rest.takeWhile isWordChar) :: ·)

theorem splitWithin?_eq_split? {fuel : Nat} {s : List Char} (h : s.length ≤ fuel) :
    splitWithin? fuel s = split? s := by
  induction fuel generalizing s with
  | zero =>
    obtain rfl : s = [] := List.length_eq_zero_iff.mp (Nat.le_zero.mp h)
    rw [splitWithin?, split?]
  | succ fuel ih =>
    cases s with
    | nil => rw [splitWithin?, split?]
    | cons c rest =>
      have hrest : rest.length ≤ fuel := Nat.le_of_succ_le_succ h
      rw [splitWithin?, split?]
      split
      · exact ih hrest
      · cases closing? c with
        | none => rw [ih (Nat.le_trans (length_dropWhile_le isWordChar rest) hrest)]
        | some close =>
          dsimp only
          cases hgroup : takeGroup? close rest with
          | none => rfl
          | some parts =>
            dsimp only
            rw [ih (Nat.le_trans (length_of_takeGroup? hgroup) hrest)]

/-- The tokens of a pattern, by two computations. -/
theorem tokens_of_splitWithin? {pattern : String} {raw : List Char} {rest : List (List Char)}
    {result : Except Fault (List Token)}
    (hsplit : splitWithin? pattern.toList.length pattern.toList = some (raw :: rest))
    (hresult : interpret (raw :: rest).length 0 (raw :: rest) = result) :
    tokens pattern = result := by
  rw [splitWithin?_eq_split? (Nat.le_refl _)] at hsplit
  rw [tokens, hsplit]
  exact hresult

example : tokens "friend [who] (-l loudly)" = .ok
    [⟨.command, false, "friend", "string", none, 0⟩, ⟨.arg, true, "who", "string", none, 1⟩,
      ⟨.flag, true, "l", "string", some "loudly", 2⟩] :=
  tokens_of_splitWithin? rfl rfl

end SlashCommands.Pattern
