/-!
# Blanks

Whitespace is the Unicode property `White_Space`: the ASCII blanks, the next-line character, the
no-break space and the typographic spaces.  Everything that skips, trims or splits at blanks goes
through `isBlank`.
-/

namespace SlashCommands.Text

/-- The ranges of code points with the property `White_Space`, both ends included. -/
def blankRanges : List (Nat × Nat) :=
  [(0x09, 0x0D), (0x20, 0x20), (0x85, 0x85), (0xA0, 0xA0), (0x1680, 0x1680), (0x2000, 0x200A),
    (0x2028, 0x2029), (0x202F, 0x202F), (0x205F, 0x205F), (0x3000, 0x3000)]

/-- Holds of the characters with the property `White_Space`. -/
def isBlank (c : Char) : Bool :=
  blankRanges.any fun r => r.1 ≤ c.toNat && c.toNat ≤ r.2

/-- The characters without the blanks in front. -/
def trimStart (s : List Char) : List Char :=
  s.dropWhile isBlank

/-- The characters without the blanks at the end. -/
def trimEnd (s : List Char) : List Char :=
  (s.reverse.dropWhile isBlank).reverse

/-- The characters without the blanks at either end. -/
def trimChars (s : List Char) : List Char :=
  trimEnd (trimStart s)

/-- Holds of texts with no blank at either end. -/
def IsTrimmed (s : List Char) : Prop :=
  (∀ c ∈ s.head?, isBlank c = false) ∧ ∀ c ∈ s.getLast?, isBlank c = false

instance (s : List Char) : Decidable (IsTrimmed s) :=
  have (o : Option Char) : Decidable (∀ c ∈ o, isBlank c = false) := o.decidableForallMem
  inferInstanceAs (Decidable (_ ∧ _))

theorem dropWhile_isBlank_of_head? {s : List Char} (h : ∀ c ∈ s.head?, isBlank c = false) :
    s.dropWhile isBlank = s := by
  cases s with
  | nil => rfl
  | cons c s => rw [List.dropWhile_cons_of_neg (by simp [h c rfl])]

theorem trimChars_of_isTrimmed {s : List Char} (h : IsTrimmed s) : trimChars s = s := by
  have hlast : ∀ c ∈ s.reverse.head?, isBlank c = false := by
    rw [List.head?_reverse]
    exact h.2
  rw [trimChars, trimStart, dropWhile_isBlank_of_head? h.1, trimEnd,
    dropWhile_isBlank_of_head? hlast, List.reverse_reverse]

/-- A text without the blanks at either end. -/
def trim (s : String) : String :=
  String.ofList (trimChars s.toList)

/-- Holds of a text that has nothing but blanks. -/
def isBlankText (s : String) : Bool :=
  s.toList.all isBlank

/-- What stands before and after the first occurrence of `mark`, if there is one. -/
def splitOnce (mark : List Char) : List Char → Option (List Char × List Char)
  | [] => if mark.isEmpty then some ([], []) else none
  | c :: rest =>
    if mark.isPrefixOf (c :: rest) then some ([], (c :: rest).drop mark.length)
    else (splitOnce mark rest).map fun parts => (c :: parts.1, parts.2)

/-- A mark that does not start again within itself is found behind a text only where it starts. -/
theorem prefix_of_prefix_append {m : Char} {ms s t : List Char} (hm : m ∉ ms)
    (h : ms <+: s ++ m :: t) : ms <+: s := by
  induction ms generalizing s with
  | nil => exact List.nil_prefix
  | cons c ms ih =>
    cases s with
    | nil =>
      obtain ⟨rfl, -⟩ := List.cons_prefix_cons.mp h
      exact absurd List.mem_cons_self hm
    | cons d s =>
      obtain ⟨rfl, hrest⟩ := List.cons_prefix_cons.mp h
      exact List.cons_prefix_cons.mpr ⟨rfl, ih (List.not_mem_of_not_mem_cons hm) hrest⟩

theorem splitOnce_of_not_infix {mark s : List Char} (h : ¬ mark <:+: s) :
    splitOnce mark s = none := by
  induction s with
  | nil =>
    have hne : mark ≠ [] := fun heq => h (heq ▸ List.infix_refl [])
    simp [splitOnce, hne]
  | cons c s ih =>
    have hstart : ¬ mark.isPrefixOf (c :: s) = true := fun hp =>
      h (List.isPrefixOf_iff_prefix.mp hp).isInfix
    have hrest : ¬ mark <:+: s := fun hs => h (hs.trans (List.suffix_cons c s).isInfix)
    rw [splitOnce, if_neg hstart, ih hrest, Option.map_none]

/-- A text is split at a mark that does not start again within itself, if none comes before. -/
theorem splitOnce_append {m : Char} {ms before : List Char} (hm : m ∉ ms)
    (h : ¬ (m :: ms) <:+: before) (after : List Char) :
    splitOnce (m :: ms) (before ++ (m :: ms ++ after)) = some (before, after) := by
  induction before with
  | nil =>
    have hstart : (m :: ms).isPrefixOf (m :: ms ++ after) = true :=
      List.isPrefixOf_iff_prefix.mpr (List.prefix_append _ _)
    rw [List.nil_append, List.cons_append, splitOnce, ← List.cons_append, if_pos hstart,
      List.drop_left]
  | cons c before ih =>
    have hstart : ¬ (m :: ms).isPrefixOf (c :: (before ++ (m :: ms ++ after))) = true := by
      intro hp
      obtain ⟨rfl, hrest⟩ := List.cons_prefix_cons.mp (List.isPrefixOf_iff_prefix.mp hp)
      have hbefore : ms <+: before := prefix_of_prefix_append hm hrest
      exact h (List.cons_prefix_cons.mpr ⟨rfl, hbefore⟩).isInfix
    have hrest : ¬ (m :: ms) <:+: before := fun hs =>
      h (hs.trans (List.suffix_cons c before).isInfix)
    rw [List.cons_append, splitOnce, if_neg hstart, ih hrest, Option.map_some]

/-- The pieces of a list between the elements that satisfy `p`. -/
def splitAt {α : Type} (p : α → Bool) : List α → List (List α)
  | [] => [[]]
  | a :: rest =>
    if p a then [] :: splitAt p rest
    else
      match splitAt p rest with
      | [] => [[a]]
      | piece :: pieces => (a :: piece) :: pieces

theorem splitAt_eq_splitOnP {α : Type} (p : α → Bool) (s : List α) : splitAt p s = s.splitOnP p := by
  induction s with
  | nil => rw [splitAt, List.splitOnP_nil]
  | cons a s ih =>
    obtain ⟨piece, pieces, hs⟩ := List.exists_cons_of_ne_nil (List.splitOnP_ne_nil p s)
    rw [splitAt, List.splitOnP_cons_eq_if_modifyHead, ih, hs]
    rfl

/-- The last element belongs to the last piece, unless it separates pieces. -/
theorem exists_splitAt_concat {α : Type} {p : α → Bool} {a : α} (ha : ¬ p a) (s : List α) :
    ∃ pieces piece, splitAt p (s ++ [a]) = pieces ++ [piece ++ [a]] := by
  induction s with
  | nil =>
    rw [List.nil_append, splitAt, if_neg ha]
    exact ⟨[], [], rfl⟩
  | cons b s ih =>
    obtain ⟨pieces, piece, hs⟩ := ih
    rw [List.cons_append, splitAt, hs]
    split
    · exact ⟨[] :: pieces, piece, rfl⟩
    · cases pieces with
      | nil => exact ⟨[], b :: piece, rfl⟩
      | cons first pieces => exact ⟨(b :: first) :: pieces, piece, rfl⟩

end SlashCommands.Text
