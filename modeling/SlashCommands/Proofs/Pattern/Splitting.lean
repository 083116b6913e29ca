import SlashCommands.Pattern.Token

/-!
# How a text splits into raw tokens

`Pattern.Splits` is the grammar of raw tokens: blanks, groups and words follow one another, a group
runs to the first bracket that closes it, and a word as far as it can.  `Pattern.LeavesOpen` holds
of the texts with a group that is never closed.  A text has one split or leaves a group open, and
never both (`Pattern.splits_or_leavesOpen`); `Pattern.split?` finds the split
(`Pattern.split?_eq_some_iff`) and notices the group (`Pattern.split?_eq_none_iff`).
-/

namespace SlashCommands.Pattern

open Text (isBlank)

/-- A bracket that opens a group and the one that closes it. -/
inductive Encloses : Char → Char → Prop
  | angle : Encloses '<' '>'
  | square : Encloses '[' ']'
  | round : Encloses '(' ')'

/-- Holds of the characters of words, which are neither blank nor open a group. -/
def InWord (c : Char) : Prop :=
  isBlank c = false ∧ ∀ close, ¬ Encloses c close

/-- The raw tokens that a text consists of. -/
inductive Splits : List Char → List (List Char) → Prop
  | nil : Splits [] []
  | blank {c : Char} {s : List Char} {raws : List (List Char)} (hblank : isBlank c)
      (rest : Splits s raws) : Splits (c :: s) raws
  | group {opening close : Char} {body s : List Char} {raws : List (List Char)}
      (hopening : Encloses opening close) (hbody : close ∉ body) (rest : Splits s raws) :
      Splits (opening :: (body ++ close :: s)) ((opening :: (body ++ [close])) :: raws)
  | word {word s : List Char} {raws : List (List Char)} (hne : word ≠ [])
      (hword : ∀ c ∈ word, InWord c) (hend : ∀ c ∈ s.head?, ¬ InWord c) (rest : Splits s raws) :
      Splits (word ++ s) (word :: raws)

/-- Holds of texts in which, outside all groups before it, a group is opened and never closed. -/
def LeavesOpen (s : List Char) : Prop :=
  ∃ before raws opening close after, s = before ++ opening :: after ∧ Splits before raws ∧
    Encloses opening close ∧ close ∉ after

/-! ### Characters -/

theorem closing?_eq_some_iff {c close : Char} : closing? c = some close ↔ Encloses c close := by
  constructor
  · intro h
    unfold closing? at h
    split at h
    · cases h; exact .angle
    · cases h; exact .square
    · cases h; exact .round
    · cases h
  · intro h
    cases h <;> rfl

theorem isWordChar_iff {c : Char} : isWordChar c = true ↔ InWord c := by
  have hclosing : (closing? c).isNone = true ↔ ∀ close, ¬ Encloses c close := by
    rw [Option.isNone_iff_eq_none, Option.eq_none_iff_forall_ne_some]
    exact forall_congr' fun close => not_congr closing?_eq_some_iff
  rw [isWordChar, Bool.and_eq_true, Bool.not_eq_true', hclosing, InWord]

theorem not_isBlank_of_encloses {c close : Char} (h : Encloses c close) : isBlank c = false := by
  cases h <;> decide

theorem not_inWord_of_encloses {c close : Char} (h : Encloses c close) : ¬ InWord c :=
  fun hword => hword.2 close h

/-! ### One raw token at a time -/

theorem takeGroup?_append {close : Char} {body : List Char} (h : close ∉ body) (s : List Char) :
    takeGroup? close (body ++ close :: s) = some (body ++ [close], s) := by
  induction body with
  | nil => simp [takeGroup?]
  | cons c body ih =>
    have hne : c ≠ close := fun heq => h (heq ▸ List.mem_cons_self)
    rw [List.cons_append, takeGroup?, if_neg hne, ih (List.not_mem_of_not_mem_cons h)]
    rfl

theorem takeGroup?_of_not_mem {close : Char} {s : List Char} (h : close ∉ s) :
    takeGroup? close s = none := by
  induction s with
  | nil => rfl
  | cons c s ih =>
    have hne : c ≠ close := fun heq => h (heq ▸ List.mem_cons_self)
    rw [takeGroup?, if_neg hne, ih (List.not_mem_of_not_mem_cons h)]
    rfl

theorem split?_blank {c : Char} (h : isBlank c) (s : List Char) : split? (c :: s) = split? s := by
  rw [split?, if_pos h]

theorem split?_group {opening close : Char} (hopening : Encloses opening close) {body : List Char}
    (hbody : close ∉ body) (s : List Char) :
    split? (opening :: (body ++ close :: s)) =
      (split? s).map ((opening :: (body ++ [close])) :: ·) := by
  have hblank : ¬ isBlank opening = true := by simp [not_isBlank_of_encloses hopening]
  rw [split?, if_neg hblank, closing?_eq_some_iff.mpr hopening]
  dsimp only
  split
  · next group after hgroup =>
    rw [takeGroup?_append hbody] at hgroup
    cases hgroup
    rfl
  · next hnone =>
    rw [takeGroup?_append hbody] at hnone
    cases hnone

theorem split?_open {opening close : Char} (hopening : Encloses opening close) {s : List Char}
    (h : close ∉ s) : split? (opening :: s) = none := by
  have hblank : ¬ isBlank opening = true := by simp [not_isBlank_of_encloses hopening]
  rw [split?, if_neg hblank, closing?_eq_some_iff.mpr hopening]
  dsimp only
  split
  · next group after hgroup =>
    rw [takeGroup?_of_not_mem h] at hgroup
    cases hgroup
  · rfl

theorem split?_word {word s : List Char} (hne : word ≠ []) (hword : ∀ c ∈ word, InWord c)
    (hend : ∀ c ∈ s.head?, ¬ InWord c) : split? (word ++ s) = (split? s).map (word :: ·) := by
  obtain ⟨c, rest, rfl⟩ := List.exists_cons_of_ne_nil hne
  have hc : InWord c := hword c List.mem_cons_self
  have hclosing : closing? c = none := by
    rw [Option.eq_none_iff_forall_ne_some]
    exact fun close h => hc.2 close (closing?_eq_some_iff.mp h)
  have hrest : ∀ c ∈ rest, isWordChar c = true := fun c h =>
    isWordChar_iff.mpr (hword c (List.mem_cons_of_mem _ h))
  have hstop : s.dropWhile isWordChar = s ∧ s.takeWhile isWordChar = [] := by
    cases s with
    | nil => exact ⟨rfl, rfl⟩
    | cons d s =>
      have hd : ¬ isWordChar d = true := fun h => hend d rfl (isWordChar_iff.mp h)
      exact ⟨List.dropWhile_cons_of_neg hd, List.takeWhile_cons_of_neg hd⟩
  rw [List.cons_append, split?, if_neg (by simp [hc.1]), hclosing]
  dsimp only
  rw [List.dropWhile_append_of_pos hrest, List.takeWhile_append_of_pos hrest, hstop.1, hstop.2,
    List.append_nil]

/-! ### Whole texts -/

theorem split?_of_splits {s : List Char} {raws : List (List Char)} (h : Splits s raws) :
    split? s = some raws := by
  induction h with
  | nil => rw [split?]
  | blank hblank _ ih => rw [split?_blank hblank, ih]
  | group hopening hbody _ ih => rw [split?_group hopening hbody, ih, Option.map_some]
  | word hne hword hend _ ih => rw [split?_word hne hword hend, ih, Option.map_some]

theorem split?_of_leavesOpen {s : List Char} (h : LeavesOpen s) : split? s = none := by
  obtain ⟨before, raws, opening, close, after, rfl, hbefore, hopening, hafter⟩ := h
  -- what comes before the group is split off token by token
  induction hbefore with
  | nil => exact split?_open hopening hafter
  | blank hblank _ ih => rw [List.cons_append, split?_blank hblank, ih]
  | group hgroup hbody _ ih =>
    rw [List.cons_append, List.append_assoc, List.cons_append, split?_group hgroup hbody, ih,
      Option.map_none]
  | @word word s _ hne hword hend _ ih =>
    have hend' : ∀ c ∈ (s ++ opening :: after).head?, ¬ InWord c := by
      cases s with
      | nil => rintro c ⟨⟩; exact not_inWord_of_encloses hopening
      | cons d s => exact hend
    rw [List.append_assoc, split?_word hne hword hend', ih, Option.map_none]

/-- A text that splits or leaves a group open still does with a piece in front that is split off
from it. -/
theorem splits_or_leavesOpen_append (piece : List Char) (new : List (List Char)) {s : List Char}
    (hpiece : ∀ t raws, t <+: s → Splits t raws → Splits (piece ++ t) (new ++ raws))
    (h : (∃ raws, Splits s raws) ∨ LeavesOpen s) :
    (∃ raws, Splits (piece ++ s) raws) ∨ LeavesOpen (piece ++ s) := by
  rcases h with ⟨raws, h⟩ | ⟨before, raws, opening, close, after, rfl, hbefore, hopen⟩
  · exact .inl ⟨new ++ raws, hpiece s raws List.prefix_rfl h⟩
  · have hfront : Splits (piece ++ before) (new ++ raws) :=
      hpiece before raws (List.prefix_append _ _) hbefore
    refine .inr ⟨piece ++ before, new ++ raws, opening, close, after, ?_, hfront, hopen⟩
    rw [List.append_assoc]

/-- What ends a word still does when the text is cut off behind it. -/
theorem forall_head?_cut {p : Char → Prop} {s t : List Char} (h : ∀ c ∈ s.head?, p c)
    (ht : t <+: s) : ∀ c ∈ t.head?, p c := by
  obtain ⟨rest, rfl⟩ := ht
  cases t with
  | nil => simp
  | cons d t => exact h

/-- Every text splits into raw tokens or leaves a group open. -/
theorem splits_or_leavesOpen (s : List Char) : (∃ raws, Splits s raws) ∨ LeavesOpen s := by
  -- what follows the first blank or raw token is shorter
  induction hlength : s.length using Nat.strongRecOn generalizing s with
  | ind n ih =>
  subst hlength
  cases s with
  | nil => exact .inl ⟨[], .nil⟩
  | cons c s =>
    by_cases hblank : isBlank c = true
    · have hrest := ih s.length (by simp) s rfl
      exact splits_or_leavesOpen_append [c] [] (fun t raws _ h => .blank hblank h) hrest
    · by_cases hopens : ∃ close, Encloses c close
      · obtain ⟨close, hopening⟩ := hopens
        by_cases hclosed : close ∈ s
        · obtain ⟨body, rest, rfl, hbody⟩ := List.eq_append_cons_of_mem hclosed
          have hrest := ih rest.length (by simp; omega) rest rfl
          have hgroup : c :: (body ++ close :: rest) = c :: (body ++ [close]) ++ rest := by simp
          rw [hgroup]
          refine splits_or_leavesOpen_append _ [c :: (body ++ [close])] (fun t raws _ h => ?_) hrest
          have hsplits : Splits (c :: (body ++ close :: t)) _ := .group hopening hbody h
          simpa using hsplits
        · exact .inr ⟨[], [], c, close, s, rfl, .nil, hopening, hclosed⟩
      · have hc : InWord c :=
          ⟨by simpa using hblank, fun close h => hopens ⟨close, h⟩⟩
        have hword : ∀ d ∈ c :: s.takeWhile isWordChar, InWord d := by
          refine List.forall_mem_cons.mpr ⟨hc, fun d hd => ?_⟩
          exact isWordChar_iff.mp (List.all_eq_true.mp List.all_takeWhile d hd)
        have hend : ∀ d ∈ (s.dropWhile isWordChar).head?, ¬ InWord d := by
          intro d hd hword
          have hnot := List.head?_dropWhile_not isWordChar s
          rw [Option.mem_def.mp hd] at hnot
          simp [isWordChar_iff.mpr hword] at hnot
        have hlength := length_dropWhile_le isWordChar s
        have hrest := ih _ (by simpa using Nat.lt_succ_of_le hlength) (s.dropWhile isWordChar) rfl
        have hsplit : c :: s = (c :: s.takeWhile isWordChar) ++ s.dropWhile isWordChar := by
          rw [List.cons_append, List.takeWhile_append_dropWhile]
        rw [hsplit]
        exact splits_or_leavesOpen_append _ [c :: s.takeWhile isWordChar]
          (fun t raws ht h => .word (by simp) hword (forall_head?_cut hend ht) h) hrest

/-- `split?` finds the split of a text. -/
theorem split?_eq_some_iff {s : List Char} {raws : List (List Char)} :
    split? s = some raws ↔ Splits s raws := by
  refine ⟨fun h => ?_, split?_of_splits⟩
  rcases splits_or_leavesOpen s with ⟨raws', hsplits⟩ | hopen
  · rw [split?_of_splits hsplits] at h
    obtain rfl := Option.some.inj h
    exact hsplits
  · rw [split?_of_leavesOpen hopen] at h
    cases h

/-- `split?` fails on the texts that leave a group open. -/
theorem split?_eq_none_iff {s : List Char} : split? s = none ↔ LeavesOpen s := by
  refine ⟨fun h => ?_, split?_of_leavesOpen⟩
  rcases splits_or_leavesOpen s with ⟨raws, hsplits⟩ | hopen
  · rw [split?_of_splits hsplits] at h
    cases h
  · exact hopen

/-- A text consists of no raw tokens just in case it is blank. -/
theorem splits_nil_iff {s : List Char} : Splits s [] ↔ ∀ c ∈ s, isBlank c := by
  induction s with
  | nil => simp [Splits.nil]
  | cons c s ih =>
    rw [List.forall_mem_cons, ← ih]
    constructor
    · intro h
      generalize hraws : ([] : List (List Char)) = raws at h
      generalize htext : c :: s = text at h
      cases h with
      | nil => cases htext
      | blank hblank rest =>
        cases htext
        exact ⟨hblank, hraws ▸ rest⟩
      | group => cases hraws
      | word => cases hraws
    · exact fun h => .blank h.1 h.2

end SlashCommands.Pattern
